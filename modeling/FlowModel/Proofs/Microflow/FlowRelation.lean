import FlowModel.Microflow.Wiring
import FlowModel.Proofs.Digraph

/-!
# Flows as a relation between ids

A flow is resolved when both its ends name a node. The resolved flows relate the ids they
leave to the ids they enter; walks are read off the closures of that relation. Nothing here
assumes that ids are distinct.

The wiring counts, lists and searches exactly the resolved flows: degrees are positive where
a resolved flow enters or leaves, what is reached is the reflexive-transitive closure, and
the wiring is cyclic when the transitive closure relates some id to itself. A view of the microflow
that tells this is faithful (`GraphView.Faithful`), and that of the wiring is
(`faithful_wiringView`).
-/

namespace FlowModel

namespace Microflow

variable (microflow : Microflow)

/-- Some node has the id. -/
def Names (id : NodeId) : Prop := ∃ node ∈ microflow.nodes, node.id = id

instance (id : NodeId) : Decidable (microflow.Names id) :=
  inferInstanceAs (Decidable (∃ node ∈ microflow.nodes, node.id = id))

/-- A stored flow whose ends both name nodes. -/
structure Resolves (flow : Flow) : Prop where
  stored : flow ∈ microflow.flows
  origin : microflow.Names flow.origin
  destination : microflow.Names flow.destination

/-- Some resolved flow enters the id. -/
def IsEntered (id : NodeId) : Prop := ∃ flow, microflow.Resolves flow ∧ flow.destination = id

/-- Some resolved flow leaves the id. -/
def IsLeft (id : NodeId) : Prop := ∃ flow, microflow.Resolves flow ∧ flow.origin = id

/-- Some resolved flow leads from one id to the other. -/
def Leads (origin target : NodeId) : Prop :=
  ∃ flow, microflow.Resolves flow ∧ flow.origin = origin ∧ flow.destination = target

/-- Some walk along resolved flows, maybe along none, leads from one id to the other. -/
def Reaches : NodeId → NodeId → Prop := Relation.ReflTransGen microflow.Leads

/-- The resolved flows that leave an id, in stored order. -/
def leaving (id : NodeId) : List Flow :=
  microflow.flows.filter fun flow =>
    microflow.Names flow.origin ∧ microflow.Names flow.destination ∧ flow.origin = id

/-- The flow stored last among the resolved flows that leave an id with a case. -/
def IsNewest (id : NodeId) (label : String) (flow : Flow) : Prop :=
  ∃ earlier later, microflow.leaving id = earlier ++ flow :: later ∧ flow.label = some label ∧
    ∀ other ∈ later, other.label ≠ some label

variable {microflow}

/-! ## What the wiring holds -/

/-- The search for an id among the nodes finds what is named. -/
theorem hasNode_iff {id : NodeId} : microflow.hasNode id = true ↔ microflow.Names id := by
  simp [hasNode, Names]

/-- A flow is wired if nodes are named by both of its ends. -/
theorem wires_iff {flow : Flow} :
    microflow.wires flow = true ↔
      microflow.Names flow.origin ∧ microflow.Names flow.destination := by
  simp [wires, hasNode_iff]

/-- The wiring has the flows that resolve, and no dangling one. -/
theorem mem_wiring_flows {flow : Flow} : flow ∈ microflow.wiring.flows ↔
    microflow.Resolves flow := by
  rw [wiring, List.mem_filter, wires_iff]
  constructor
  · rintro ⟨stored, origin, destination⟩
    exact ⟨stored, origin, destination⟩
  · intro resolved
    exact ⟨resolved.stored, resolved.origin, resolved.destination⟩

/-- What leaves an id are the flows from it that resolve. -/
theorem mem_leaving {id : NodeId} {flow : Flow} :
    flow ∈ microflow.leaving id ↔ microflow.Resolves flow ∧ flow.origin = id := by
  simp only [leaving, List.mem_filter, decide_eq_true_eq]
  constructor
  · rintro ⟨stored, origin, destination, leaves⟩
    exact ⟨⟨stored, origin, destination⟩, leaves⟩
  · rintro ⟨resolved, leaves⟩
    exact ⟨resolved.stored, resolved.origin, resolved.destination, leaves⟩

/-- An id is left if some flow leaves it. -/
theorem isLeft_iff_leaving {id : NodeId} : microflow.IsLeft id ↔
    ∃ flow, flow ∈ microflow.leaving id := by
  simp only [IsLeft, mem_leaving]

/-- The wiring lists the flows from an id with the newest first. -/
theorem departures_eq (id : NodeId) :
    microflow.wiring.departures id = (microflow.leaving id).reverse := by
  have same : ∀ flow, (decide (flow.origin = id) && microflow.wires flow) =
      decide (microflow.Names flow.origin ∧ microflow.Names flow.destination ∧
        flow.origin = id) := by
    intro flow
    rw [Bool.eq_iff_iff]
    simp only [Bool.and_eq_true, decide_eq_true_eq, wires_iff]
    tauto
  simp only [Wiring.departures, wiring, List.filter_filter, leaving, beq_eq_decide, same]

/-- What is entered has flows to it. -/
theorem inDegree_pos {id : NodeId} : 0 < microflow.wiring.inDegree id ↔ microflow.IsEntered id := by
  simp [Wiring.inDegree, List.countP_pos_iff, mem_wiring_flows, IsEntered]

/-- What is left has flows from it. -/
theorem outDegree_pos {id : NodeId} : 0 < microflow.wiring.outDegree id ↔ microflow.IsLeft id := by
  simp [Wiring.outDegree, List.countP_pos_iff, mem_wiring_flows, IsLeft]

/-- An arrow of the wiring is a flow that leads on. -/
theorem arrow_wiring {origin target : NodeId} :
    Digraph.Arrow microflow.wiring.arrows origin target ↔ microflow.Leads origin target := by
  simp only [Digraph.Arrow, Wiring.arrows, List.mem_map, mem_wiring_flows, Prod.mk.injEq, Leads]

/-- Walks along arrows are walks along flows. -/
theorem arrow_wiring_eq : Digraph.Arrow microflow.wiring.arrows = microflow.Leads := by
  funext origin target
  exact propext arrow_wiring

/-- The search reaches exactly the ids in the reflexive-transitive closure of the resolved flows. -/
theorem mem_reached {id target : NodeId} :
    target ∈ microflow.wiring.reached id ↔ microflow.Reaches id target := by
  simp [Wiring.reached, Digraph.mem_visits, Digraph.Reaches, arrow_wiring_eq, Reaches]

/-- The wiring is cyclic exactly when the transitive closure of the resolved flows meets the
diagonal. -/
theorem isCyclic_iff :
    microflow.wiring.isCyclic = true ↔ ∃ id, Relation.TransGen microflow.Leads id id := by
  rw [Wiring.isCyclic, Digraph.hasCycle_iff, arrow_wiring_eq]

/-- The arrows have no cycle if no flows lead from an id back to it. -/
theorem acyclic_arrows_iff :
    Digraph.Acyclic microflow.wiring.arrows ↔ ∀ id, ¬ Relation.TransGen microflow.Leads id id := by
  rw [Digraph.Acyclic, arrow_wiring_eq]

/-! ## The newest flow of a case -/

/-- A search through the flows that leave an id, newest first, stops at the newest flow of a
case. -/
theorem find?_leaving {id : NodeId} {label : String} {flow : Flow} :
    ((microflow.leaving id).reverse.find? fun flow => flow.label == some label) = some flow ↔
      microflow.IsNewest id label flow := by
  rw [List.find?_eq_some_iff_append]
  simp only [beq_iff_eq, Bool.not_eq_true', beq_eq_false_iff_ne, IsNewest]
  constructor
  · rintro ⟨labeled, newer, older, listed, others⟩
    refine ⟨older.reverse, newer.reverse, ?_, labeled, fun other member => ?_⟩
    · rw [← List.reverse_reverse (microflow.leaving id), listed]
      simp
    · exact others other (List.mem_reverse.mp member)
  · rintro ⟨earlier, later, listed, labeled, others⟩
    refine ⟨labeled, later.reverse, earlier.reverse, ?_, fun other member => ?_⟩
    · simp [listed]
    · exact others other (List.mem_reverse.mp member)

/-- The newest flow with a label leaves the id. -/
theorem IsNewest.mem {id : NodeId} {label : String} {flow : Flow}
    (newest : microflow.IsNewest id label flow) :
    flow ∈ microflow.leaving id := by
  obtain ⟨earlier, later, listed, _⟩ := newest
  simp [listed]

/-- The newest flow with a label resolves: a dangling one is not taken into account, even if it
comes later. -/
theorem IsNewest.resolves {id : NodeId} {label : String} {flow : Flow}
    (newest : microflow.IsNewest id label flow) : microflow.Resolves flow :=
  (mem_leaving.mp newest.mem).1

/-- The newest flow with a label has that label. -/
theorem IsNewest.label_eq {id : NodeId} {label : String} {flow : Flow}
    (newest : microflow.IsNewest id label flow) : flow.label = some label := by
  obtain ⟨_, _, _, labeled, _⟩ := newest
  exact labeled

/-! ## Looking up nodes -/

/-- What is found by an id is stored and has it. -/
theorem node?_mem {id : NodeId} {node : Node} (found : microflow.node? id = some node) :
    node ∈ microflow.nodes ∧ node.id = id := by
  have same := List.find?_some found
  exact ⟨List.mem_of_find?_eq_some found, by simpa using same⟩

/-- With distinct ids the first node with an id is the only one. -/
theorem node?_eq_some_iff (distinct : (microflow.nodes.map Node.id).Nodup) {id : NodeId}
    {node : Node} :
    microflow.node? id = some node ↔ node ∈ microflow.nodes ∧ node.id = id := by
  constructor
  · exact node?_mem
  · rintro ⟨stored, rfl⟩
    have isFound : (microflow.node? node.id).isSome := List.find?_isSome.mpr ⟨node, stored, by simp⟩
    obtain ⟨other, found⟩ := Option.isSome_iff_exists.mp isFound
    obtain ⟨otherStored, sameId⟩ := node?_mem found
    rw [found, List.inj_on_of_nodup_map distinct otherStored stored sameId]

end Microflow

/-! ## What a view tells -/

/-- Both ends of a flow name a node. -/
def Microflow.Knows (microflow : Microflow) (flow : Flow) : Prop :=
  microflow.Names flow.origin ∧ microflow.Names flow.destination

instance (microflow : Microflow) (flow : Flow) : Decidable (microflow.Knows flow) :=
  inferInstanceAs (Decidable (_ ∧ _))

namespace GraphView

/-- A view tells what the stored flows are. -/
structure Faithful (view : GraphView) (microflow : Microflow) : Prop where
  dangling_eq : view.dangling =
    (microflow.flows.filter fun flow => ¬ microflow.Knows flow).map Flow.ends
  edgeCount_add : view.edgeCount + view.dangling.length = microflow.flows.length
  outgoing_eq (id : NodeId) : view.outgoing id =
    ((microflow.flows.filter fun flow => flow.origin = id ∧ microflow.Knows flow).map
      Flow.arrival).reverse
  outgoingCount_eq (id : NodeId) : view.outgoingCount id =
    microflow.flows.countP fun flow => flow.origin = id ∧ microflow.Knows flow
  incomingCount_eq (id : NodeId) : view.incomingCount id =
    microflow.flows.countP fun flow => flow.destination = id ∧ microflow.Knows flow
  reachableFrom_eq_nil (id : NodeId) : ¬ microflow.Names id → view.reachableFrom id = []
  mem_reachableFrom (id : NodeId) : microflow.Names id → ∀ target,
    target ∈ view.reachableFrom id ↔ microflow.Reaches id target
  isCyclic_iff : view.isCyclic = true ↔ ∃ id, Relation.TransGen microflow.Leads id id

namespace Faithful

variable {view : GraphView} {microflow : Microflow} {id : NodeId}

/-- A view counts flows into an id exactly where some resolved flow enters. -/
theorem incomingCount_pos (faithful : view.Faithful microflow) :
    0 < view.incomingCount id ↔ microflow.IsEntered id := by
  simp only [faithful.incomingCount_eq, List.countP_pos_iff, decide_eq_true_eq]
  constructor
  · rintro ⟨flow, stored, enters, origin, destination⟩
    exact ⟨flow, ⟨stored, origin, destination⟩, enters⟩
  · rintro ⟨flow, resolved, enters⟩
    exact ⟨flow, resolved.stored, enters, resolved.origin, resolved.destination⟩

/-- A view counts flows out of an id exactly where some resolved flow leaves. -/
theorem outgoingCount_pos (faithful : view.Faithful microflow) :
    0 < view.outgoingCount id ↔ microflow.IsLeft id := by
  simp only [faithful.outgoingCount_eq, List.countP_pos_iff, decide_eq_true_eq]
  constructor
  · rintro ⟨flow, stored, leaves, origin, destination⟩
    exact ⟨flow, ⟨stored, origin, destination⟩, leaves⟩
  · rintro ⟨flow, resolved, leaves⟩
    exact ⟨flow, resolved.stored, leaves, resolved.origin, resolved.destination⟩

/-- What a view tells of the ways out of an id are the resolved flows that leave it, newest first. -/
theorem outgoing_eq_leaving (faithful : view.Faithful microflow) (id : NodeId) :
    view.outgoing id = (microflow.leaving id).reverse.map Flow.arrival := by
  have same (flow : Flow) : decide (flow.origin = id ∧ microflow.Knows flow) =
      decide (microflow.Names flow.origin ∧ microflow.Names flow.destination ∧
        flow.origin = id) := by
    rw [decide_eq_decide, Microflow.Knows, and_comm, and_assoc]
  rw [faithful.outgoing_eq, List.map_reverse, Microflow.leaving]
  simp only [same]

/-- What a view reaches from the end of a resolved flow is all that can be reached from it. -/
theorem mem_reachableFrom_destination (faithful : view.Faithful microflow) {flow : Flow}
    (resolved : microflow.Resolves flow) (target : NodeId) :
    target ∈ view.reachableFrom flow.destination ↔ microflow.Reaches flow.destination target :=
  faithful.mem_reachableFrom flow.destination resolved.destination target

end Faithful

end GraphView

/-- Whether a flow is wired is whether its ends are known. -/
theorem Microflow.wires_eq (microflow : Microflow) (flow : Flow) :
    microflow.wires flow = decide (microflow.Knows flow) :=
  Bool.eq_iff_iff.mpr (wires_iff.trans (decide_eq_true_iff (p := microflow.Knows flow)).symm)

/-- The wiring of a microflow tells what the stored flows are, also where ids repeat, flows run in
parallel or in circles, or ends are missing. -/
theorem faithful_wiringView (microflow : Microflow) :
    microflow.wiringView.Faithful microflow := by
  have wires (flow : Flow) := microflow.wires_eq flow
  constructor
  case dangling_eq => simp only [Microflow.wiringView, Microflow.danglingFlows, wires, decide_not]
  case edgeCount_add =>
    rw [Microflow.wiringView, List.length_map]
    exact (List.length_eq_length_filter_add microflow.wires).symm
  case outgoing_eq =>
    intro id
    simp only [Microflow.wiringView, Wiring.departures, Microflow.wiring, List.filter_filter, wires,
      List.map_reverse, Bool.decide_and, beq_eq_decide]
  case outgoingCount_eq =>
    intro id
    simp only [Microflow.wiringView, Wiring.outDegree, Microflow.wiring, List.countP_filter, wires,
      Bool.decide_and, beq_eq_decide]
  case incomingCount_eq =>
    intro id
    simp only [Microflow.wiringView, Wiring.inDegree, Microflow.wiring, List.countP_filter, wires,
      Bool.decide_and, beq_eq_decide]
  case reachableFrom_eq_nil =>
    intro id unnamed
    exact if_neg fun named => unnamed (Microflow.hasNode_iff.mp named)
  case mem_reachableFrom =>
    intro id named target
    have searched : microflow.reachableFrom id = (microflow.wiring.reached id).eraseDups :=
      if_pos (Microflow.hasNode_iff.mpr named)
    show target ∈ microflow.reachableFrom id ↔ _
    rw [searched, List.mem_eraseDups, Microflow.mem_reached]
  case isCyclic_iff => exact Microflow.isCyclic_iff

end FlowModel
