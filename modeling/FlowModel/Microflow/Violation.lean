import FlowModel.Microflow.Wiring
import FlowModel.Text.Quoted

/-!
# Structural rules for microflows

A microflow is well formed when it breaks none of eleven rules. `Microflow.violations` lists every breach, rule
after rule and within a rule in stored order. The rules ask a view of the microflow as a graph. Those on the ways in and
out of a node count the flows that are edges of this graph; flows that dangle are breaches of their own.
-/

namespace FlowModel

/-- A breach of a structural rule. -/
inductive Violation where
  | startCount (found : Nat)
  | enteredStart (node : NodeId)
  | danglingFlow (origin destination : NodeId)
  | unentered (node : NodeId)
  | splitCases (node : NodeId) (found : List (Option String))
  | separateBranches (node : NodeId)
  | leftEnd (node : NodeId)
  | cycle
  | strayCase (origin destination : NodeId)
  | wiredParameter (node : NodeId)
  | deadEnd (node : NodeId)
deriving DecidableEq, Repr, Inhabited

namespace Violation

/-- The code of the broken rule. -/
def code : Violation → String
  | .startCount _ => "M001"
  | .enteredStart _ => "M002"
  | .danglingFlow .. => "M003"
  | .unentered _ => "M004"
  | .splitCases .. => "M005"
  | .separateBranches _ => "M006"
  | .leftEnd _ => "M007"
  | .cycle => "M008"
  | .strayCase .. => "M009"
  | .wiredParameter _ => "M010"
  | .deadEnd _ => "M011"

/-- What a reader is told about a breach. -/
def message : Violation → String
  | .startCount found => "Microflow must have exactly 1 start event, found " ++ found.repr
  | .enteredStart _ => "Start event must not have incoming flows"
  | .danglingFlow origin destination =>
    "Flow " ++ origin.text ++ " -> " ++ destination.text ++ " references an unknown object"
  | .unentered _ => "Object has no incoming flow"
  | .splitCases _ found =>
    "Exclusive split must have exactly a 'true' and a 'false' flow, found " ++ Quoted.listText found
  | .separateBranches _ => "Branches of exclusive split never reach a common merge"
  | .leftEnd _ => "End event must not have outgoing flows"
  | .cycle => "Microflow contains a cycle"
  | .strayCase origin destination =>
    "Flow " ++ origin.text ++ " -> " ++ destination.text ++
      " carries a case value but does not leave a split"
  | .wiredParameter _ => "Parameters are not part of the control flow"
  | .deadEnd _ => "Object has no outgoing flow"

/-- The node at which a breach was found. A stray case is found at the node its flow leaves. -/
def node? : Violation → Option NodeId
  | .startCount _ | .danglingFlow .. | .cycle => none
  | .strayCase origin _ => some origin
  | .enteredStart node | .unentered node | .splitCases node _ | .separateBranches node | .leftEnd node
  | .wiredParameter node | .deadEnd node => some node

/-- A breach in one line. -/
def text (violation : Violation) : String :=
  "[" ++ violation.code ++ "] " ++ violation.message ++
    match violation.node? with
    | some node => " (at object " ++ node.text ++ ")"
    | none => ""

end Violation

namespace Microflow

variable (microflow : Microflow) (view : GraphView)

/-- There is exactly one start event. -/
def startCountViolations : List Violation :=
  let found := microflow.nodes.countP Node.isStart
  if found = 1 then [] else [.startCount found]

/-- No flow enters a start event. -/
def enteredStartViolations : List Violation :=
  (microflow.nodes.filter fun node => node.isStart && 0 < view.incomingCount node.id).map fun node =>
    .enteredStart node.id

/-- Every flow names two nodes. -/
def danglingFlowViolations : List Violation :=
  view.dangling.map fun (origin, destination) => .danglingFlow origin destination

/-- Some flow enters every node other than start events and parameters. -/
def unenteredViolations : List Violation :=
  (microflow.nodes.filter fun node =>
    !node.isStart && !node.isParameter && view.incomingCount node.id == 0).map fun node => .unentered node.id

/-- The cases of the flows that leave a node, newest first. -/
def casesFound (node : Node) : List (Option String) := (view.outgoing node.id).map fun (_, link) => link.label

/-- Two flows leave every split: one for each Boolean case. -/
def splitCaseViolations : List Violation :=
  (microflow.nodes.filter Node.isSplit).filterMap fun node =>
    let found := casesFound view node
    if found.length = 2 ∧ some (caseLabel true) ∈ found ∧ some (caseLabel false) ∈ found then none
    else some (.splitCases node.id found)

/-- The id entered by the newest flow that leaves a node with a Boolean case. -/
def branchTarget? (id : NodeId) (holds : Bool) : Option NodeId :=
  ((view.outgoing id).find? fun (_, link) => link.label == some (caseLabel holds)).map Prod.fst

/-- Whether some merge can be reached from both ids. -/
def meetAtMerge (one other : NodeId) : Bool :=
  let fromOne := view.reachableFrom one
  let fromOther := view.reachableFrom other
  microflow.nodes.any fun node => node.isMerge && fromOne.contains node.id && fromOther.contains node.id

/-- The two branches of a split can both reach one merge. A split that lacks a branch is left to the rule on
cases. -/
def separateBranchViolations : List Violation :=
  (microflow.nodes.filter Node.isSplit).filterMap fun node =>
    match branchTarget? view node.id true, branchTarget? view node.id false with
    | some whenTrue, some whenFalse =>
      if microflow.meetAtMerge view whenTrue whenFalse then none else some (.separateBranches node.id)
    | _, _ => none

/-- No flow leaves an end event. -/
def leftEndViolations : List Violation :=
  (microflow.nodes.filter fun node => node.isEnd && 0 < view.outgoingCount node.id).map fun node => .leftEnd node.id

/-- No walk returns to its start. -/
def cycleViolations : List Violation := if view.isCyclic then [.cycle] else []

/-- Only flows that leave a split carry a case. -/
def strayCaseViolations : List Violation :=
  (microflow.flows.filter fun flow =>
    flow.label.isSome && !((microflow.node? flow.origin).any Node.isSplit)).map fun flow =>
      .strayCase flow.origin flow.destination

/-- No flow enters or leaves a parameter. -/
def wiredParameterViolations : List Violation :=
  (microflow.nodes.filter fun node =>
    node.isParameter && 0 < view.incomingCount node.id + view.outgoingCount node.id).map fun node =>
      .wiredParameter node.id

/-- Some flow leaves every node other than end events and parameters. -/
def deadEndViolations : List Violation :=
  (microflow.nodes.filter fun node =>
    !node.isEnd && !node.isParameter && view.outgoingCount node.id == 0).map fun node => .deadEnd node.id

/-- All breaches of the structural rules, rule after rule, when the rules ask a given view. -/
def violationsWith : List Violation :=
  microflow.startCountViolations ++ microflow.enteredStartViolations view ++ danglingFlowViolations view ++
    microflow.unenteredViolations view ++ microflow.splitCaseViolations view ++
    microflow.separateBranchViolations view ++ microflow.leftEndViolations view ++ cycleViolations view ++
    microflow.strayCaseViolations ++ microflow.wiredParameterViolations view ++ microflow.deadEndViolations view

/-- All breaches of the structural rules, rule after rule. -/
def violations : List Violation := microflow.violationsWith microflow.wiringView

end Microflow

end FlowModel
