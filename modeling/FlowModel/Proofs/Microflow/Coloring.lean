import FlowModel.Microflow.Coloring
import FlowModel.Microflow.MainLine
import FlowModel.Microflow.Violation

/-!
# Recoloring is a normalization

Recoloring leaves no activity with another color than that of its action, and changes nothing
where there was none. So doing it again changes nothing (`miscolored_recolored`,
`recolored_eq_self_iff`). It changes colors only: without them a microflow is what it was
(`uncolored_recolored`), and neither the structural rules nor the main line nor the next id look at
colors (`normalizes_recolored`).
-/

namespace FlowModel

/-- What a node is, with its color left out. -/
def NodeKind.uncolored : NodeKind → NodeKind
  | .activity action _ => .activity action .default
  | kind => kind

/-- All of a node but its color. -/
def Node.uncolored (node : Node) : Node := { node with kind := node.kind.uncolored }

/-- All of a microflow but the colors of its activities. -/
def Microflow.uncolored (microflow : Microflow) : Microflow :=
  { microflow with nodes := microflow.nodes.map Node.uncolored }

namespace Node

/-- A recolored node has no wrong color. -/
@[simp] theorem isMiscolored_recolored (node : Node) : node.recolored.isMiscolored = false := by
  rw [recolored]
  cases kindOf : node.kind <;> simp [isMiscolored, kindOf]

/-- A node with the right color is not changed. -/
theorem recolored_eq_self {node : Node} (right : node.isMiscolored = false) :
    node.recolored = node := by
  obtain ⟨id, position, size, kind⟩ := node
  cases kind with
  | activity action color =>
    obtain rfl : color = action.color := by simpa [isMiscolored] using right
    rfl
  | _ => rfl

/-- Recoloring changes nothing but the color. -/
theorem uncolored_recolored (node : Node) : node.recolored.uncolored = node.uncolored := by
  obtain ⟨id, position, size, kind⟩ := node
  cases kind <;> rfl

/-! ### Roles without colors -/

/-- Without its color a node has the same id. -/
@[simp] theorem id_uncolored (node : Node) : node.uncolored.id = node.id := rfl

/-- Start events have no color. -/
@[simp] theorem isStart_uncolored (node : Node) : node.uncolored.isStart = node.isStart := by
  cases kindOf : node.kind <;> simp [uncolored, isStart, NodeKind.uncolored, kindOf]

/-- End events have no color. -/
@[simp] theorem isEnd_uncolored (node : Node) : node.uncolored.isEnd = node.isEnd := by
  cases kindOf : node.kind <;> simp [uncolored, isEnd, NodeKind.uncolored, kindOf]

/-- Splits have no color. -/
@[simp] theorem isSplit_uncolored (node : Node) : node.uncolored.isSplit = node.isSplit := by
  cases kindOf : node.kind <;> simp [uncolored, isSplit, NodeKind.uncolored, kindOf]

/-- Merges have no color. -/
@[simp] theorem isMerge_uncolored (node : Node) : node.uncolored.isMerge = node.isMerge := by
  cases kindOf : node.kind <;> simp [uncolored, isMerge, NodeKind.uncolored, kindOf]

/-- Parameters have no color. -/
@[simp] theorem isParameter_uncolored (node : Node) :
    node.uncolored.isParameter = node.isParameter := by
  cases kindOf : node.kind <;> simp [uncolored, isParameter, NodeKind.uncolored, kindOf]

end Node

namespace Microflow

/-- A recolored microflow has no wrong color. -/
@[simp] theorem miscolored_recolored (microflow : Microflow) :
    microflow.recolored.miscolored = 0 := by
  simp [recolored, miscolored]

/-- A microflow without wrong colors is not changed. -/
theorem recolored_eq_self {microflow : Microflow} (right : microflow.miscolored = 0) :
    microflow.recolored = microflow := by
  have nodes : microflow.nodes.map Node.recolored = microflow.nodes := by
    refine (List.map_congr_left fun node member => ?_).trans (List.map_id microflow.nodes)
    have wrong : ¬ node.isMiscolored = true := List.countP_eq_zero.mp right node member
    exact Node.recolored_eq_self (Bool.eq_false_iff.mpr wrong)
  rw [recolored, nodes]

/-- A microflow is changed by recoloring exactly if it has a wrong color. -/
theorem recolored_eq_self_iff {microflow : Microflow} :
    microflow.recolored = microflow ↔ microflow.miscolored = 0 :=
  ⟨fun same => same ▸ miscolored_recolored microflow, recolored_eq_self⟩

/-- Recoloring twice is recoloring once. -/
theorem recolored_recolored (microflow : Microflow) :
    microflow.recolored.recolored = microflow.recolored :=
  recolored_eq_self (miscolored_recolored microflow)

/-! ## What does not look at colors -/

variable (microflow : Microflow)

/-- Microflows that differ by recoloring are the same without colors. -/
theorem uncolored_recolored : microflow.recolored.uncolored = microflow.uncolored := by
  simp [uncolored, recolored, Function.comp_def, Node.uncolored_recolored]

/-- Without colors a microflow has the same nodes in the same order. -/
theorem nodes_uncolored : microflow.uncolored.nodes = microflow.nodes.map Node.uncolored := rfl

/-- Flows have no color. -/
theorem flows_uncolored : microflow.uncolored.flows = microflow.flows := rfl

/-- Whether there is a node with an id does not depend on colors. -/
theorem hasNode_uncolored : microflow.uncolored.hasNode = microflow.hasNode := by
  funext id
  simp [hasNode, nodes_uncolored, Function.comp_def]

/-- Whether both ends of a flow are there does not depend on colors. -/
theorem wires_uncolored : microflow.uncolored.wires = microflow.wires := by
  funext flow
  rw [wires, wires, hasNode_uncolored]

/-- The wiring is made of ids and flows. -/
theorem wiring_uncolored : microflow.uncolored.wiring = microflow.wiring := by
  rw [wiring, wiring, wires_uncolored, flows_uncolored]

/-- The flows that dangle do so whatever the colors are. -/
theorem danglingFlows_uncolored : microflow.uncolored.danglingFlows = microflow.danglingFlows := by
  rw [danglingFlows, danglingFlows, wires_uncolored, flows_uncolored]

/-- The flows from a node are found by its id. -/
theorem flowsFrom_uncolored : microflow.uncolored.flowsFrom = microflow.flowsFrom := rfl

/-- The same node is found by an id, without its color. -/
theorem node?_uncolored (id : NodeId) :
    microflow.uncolored.node? id = (microflow.node? id).map Node.uncolored := by
  simp [node?, nodes_uncolored, List.find?_map, Function.comp_def]

/-- The next free id depends on the ids in use only. -/
theorem nextId?_uncolored : microflow.uncolored.nextId? = microflow.nextId? := by
  simp only [nextId?, nodes_uncolored, List.all_map, List.foldl_map]
  rfl

/-! ### The structural rules -/

/-- The graph that the rules see is the same. -/
theorem wiringView_uncolored : microflow.uncolored.wiringView = microflow.wiringView := by
  have reached : microflow.uncolored.reachableFrom = microflow.reachableFrom := by
    funext id
    rw [reachableFrom, reachableFrom, hasNode_uncolored, wiring_uncolored]
  rw [wiringView, wiringView, danglingFlows_uncolored, wiring_uncolored, reached]

/-- Whether two branches meet is asked of the graph and of the kinds of nodes. -/
theorem meetAtMerge_uncolored (view : GraphView) :
    microflow.uncolored.meetAtMerge view = microflow.meetAtMerge view := by
  funext one other
  simp only [meetAtMerge, nodes_uncolored, List.any_map, Function.comp_def, Node.isMerge_uncolored,
    Node.id_uncolored]

/-- The rule that looks at stored nodes and not at the graph asks for splits only. -/
theorem strayCaseViolations_uncolored :
    microflow.uncolored.strayCaseViolations = microflow.strayCaseViolations := by
  simp only [strayCaseViolations, flows_uncolored, node?_uncolored, Option.any_map,
    Node.isSplit_uncolored]

/-- The rules ask nodes for their ids and roles only. -/
theorem violations_uncolored : microflow.uncolored.violations = microflow.violations := by
  simp only [violations, violationsWith, startCountViolations, enteredStartViolations,
    unenteredViolations, splitCaseViolations, separateBranchViolations, meetAtMerge_uncolored,
    leftEndViolations, strayCaseViolations_uncolored, wiredParameterViolations, deadEndViolations,
    nodes_uncolored, wiringView_uncolored, casesFound, List.filter_map, List.filterMap_map,
    List.map_map, List.countP_map, Function.comp_def, Node.isStart_uncolored,
    Node.isEnd_uncolored, Node.isSplit_uncolored, Node.isParameter_uncolored, Node.id_uncolored]
  rfl

/-! ### The main line -/

/-- The main line goes on to the same node. -/
theorem mainSuccessor?_uncolored (node : Node) :
    microflow.uncolored.mainSuccessor? node.uncolored =
      (microflow.mainSuccessor? node).map Node.uncolored := by
  have sameFlow : microflow.uncolored.mainFlow? node.uncolored = microflow.mainFlow? node := by
    simp [mainFlow?, flowsFrom_uncolored]
  rw [mainSuccessor?, sameFlow, mainSuccessor?]
  cases microflow.mainFlow? node with
  | none => rfl
  | some flow => exact microflow.node?_uncolored flow.destination

/-- From node to node the search for the main line meets the same ids. -/
theorem lineFrom_uncolored (atMost : Nat) (met : List NodeId) (node : Node) :
    microflow.uncolored.lineFrom atMost met node.uncolored =
      (microflow.lineFrom atMost met node).map Node.uncolored := by
  induction atMost generalizing met node with
  | zero => rfl
  | succ atMost inductionHypothesis =>
    rw [lineFrom, lineFrom, mainSuccessor?_uncolored, Node.id_uncolored]
    by_cases known : node.id ∈ met
    · rw [if_pos known, if_pos known]
      rfl
    · rw [if_neg known, if_neg known]
      cases microflow.mainSuccessor? node with
      | none => rfl
      | some next => exact congrArg (node.uncolored :: ·) (inductionHypothesis _ next)

/-- The main line is the same, without colors. -/
theorem mainLine_uncolored :
    microflow.uncolored.mainLine = microflow.mainLine.map Node.uncolored := by
  have isStart : Node.isStart ∘ Node.uncolored = Node.isStart := funext Node.isStart_uncolored
  have sameStart : microflow.uncolored.start? = microflow.start?.map Node.uncolored := by
    rw [start?, start?, nodes_uncolored, List.find?_map, isStart]
  rw [mainLine, mainLine, sameStart]
  cases microflow.start? with
  | none => rfl
  | some start =>
    rw [nodes_uncolored, List.length_map]
    exact microflow.lineFrom_uncolored microflow.nodes.length [] start

/-! ## Normal forms -/

/-- A microflow is another one with its colors put right, and all else is the same. Nodes whose
colors were right are left alone; rules, main line and next id are what they were. -/
structure Normalizes (before after : Microflow) : Prop where
  uncolored : after.uncolored = before.uncolored
  right : after.miscolored = 0
  spared : ∀ (place : Nat) (node : Node), before.nodes[place]? = some node →
    node.isMiscolored = false → after.nodes[place]? = some node
  violations : after.violations = before.violations
  mainLine : after.mainLine.map Node.uncolored = before.mainLine.map Node.uncolored
  nextId? : after.nextId? = before.nextId?

/-- A recolored microflow is a normal form: it breaks the same rules, has the same main line and the
same next id, and differs in colors only. -/
theorem normalizes_recolored : microflow.Normalizes microflow.recolored where
  uncolored := microflow.uncolored_recolored
  right := microflow.miscolored_recolored
  spared := by
    intro place node stored right
    rw [recolored, List.getElem?_map, stored, Option.map_some, Node.recolored_eq_self right]
  violations := by
    rw [← violations_uncolored, uncolored_recolored, violations_uncolored]
  mainLine := by
    rw [← mainLine_uncolored, uncolored_recolored, mainLine_uncolored]
  nextId? := by
    rw [← nextId?_uncolored, uncolored_recolored, nextId?_uncolored]

end Microflow

end FlowModel
