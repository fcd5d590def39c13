import FlowModel.Proofs.Microflow.Rules
import Mathlib.Data.List.Induction

/-!
# Microflows as graphs of places

Another view of a microflow numbers its nodes by their places in stored order and keeps, for each
id, the place of the last node that has it. Flows become edges between places; a flow with an id
that has no place dangles. Nodes that share their id with a later one stay without edges.

The view tells the same as the stored flows, also where ids repeat, flows run in parallel or in
circles, or ends are missing (`views_faithful`). So does the wiring, which has no places at all, and
so the structural rules find the same in both (`violationsWith_placeGraph`).
-/

namespace FlowModel

/-- An edge between two places. -/
structure PlaceEdge where
  origin : Nat
  target : Nat
  link : Link
deriving DecidableEq, Repr, Inhabited

/-- A graph of places. It knows the id at each place, the place for each id, the latest first, and
the edges in the order in which they were added; flows that are no edges dangle. -/
structure PlaceGraph where
  ids : List NodeId
  places : List (NodeId × Nat)
  edges : List PlaceEdge
  dangling : List (NodeId × NodeId)
deriving DecidableEq, Repr, Inhabited

namespace PlaceGraph

/-- A graph without places. -/
def empty : PlaceGraph := ⟨[], [], [], []⟩

/-- The place for an id: that of the last node with it. -/
def place? (graph : PlaceGraph) (id : NodeId) : Option Nat := graph.places.lookup id

/-- The edge for a flow, if both its ends have a place. -/
def edge? (graph : PlaceGraph) (flow : Flow) : Option PlaceEdge := do
  let origin ← graph.place? flow.origin
  let target ← graph.place? flow.destination
  return ⟨origin, target, flow.link⟩

/-- Add a node at the next place. Its id stands for that place from now on. -/
def addNode (graph : PlaceGraph) (node : Node) : PlaceGraph :=
  { graph with
    ids := graph.ids ++ [node.id]
    places := (node.id, graph.ids.length) :: graph.places }

/-- Add a flow as an edge, if it is one. -/
def addFlow (graph : PlaceGraph) (flow : Flow) : PlaceGraph :=
  match graph.edge? flow with
  | some edge => { graph with edges := graph.edges ++ [edge] }
  | none => { graph with dangling := graph.dangling ++ [flow.ends] }

/-- The graph of a microflow: first all nodes, then all flows. -/
def ofMicroflow (microflow : Microflow) : PlaceGraph :=
  microflow.flows.foldl addFlow (microflow.nodes.foldl addNode empty)

/-- What an edge leads to: the id at its target, and how it gets there. -/
def arrival? (graph : PlaceGraph) (edge : PlaceEdge) : Option (NodeId × Link) :=
  graph.ids[edge.target]?.map fun id => (id, edge.link)

/-- What the edges that leave the place for an id lead to, the edge added last first. -/
def outgoing (graph : PlaceGraph) (id : NodeId) : List (NodeId × Link) :=
  match graph.place? id with
  | none => []
  | some place =>
    (graph.edges.filter fun edge => edge.origin == place).reverse.filterMap graph.arrival?

/-- How many edges leave the place for an id. -/
def outgoingCount (graph : PlaceGraph) (id : NodeId) : Nat :=
  match graph.place? id with
  | none => 0
  | some place => graph.edges.countP fun edge => edge.origin == place

/-- How many edges enter the place for an id. -/
def incomingCount (graph : PlaceGraph) (id : NodeId) : Nat :=
  match graph.place? id with
  | none => 0
  | some place => graph.edges.countP fun edge => edge.target == place

/-- The edges as arrows between places. -/
def arrows (graph : PlaceGraph) : List (Nat × Nat) :=
  graph.edges.map fun edge => (edge.origin, edge.target)

/-- The ids at the places that are met when edges are followed from the place for an id. -/
def reachableFrom (graph : PlaceGraph) (id : NodeId) : List NodeId :=
  match graph.place? id with
  | none => []
  | some place => (Digraph.visits graph.arrows [place]).filterMap fun met => graph.ids[met]?

/-! ## Adding nodes and flows -/

/-- A graph to which nodes and then flows were added. An id has a place exactly if some node has the
id, and there is a node with the id at its place. The flows with places for both ends are the edges,
in the same order, and the others dangle. -/
structure Shows (nodes : List Node) (flows : List Flow) (graph : PlaceGraph) : Prop where
  ids_eq : graph.ids = nodes.map Node.id
  id_at {id : NodeId} {place : Nat} : graph.place? id = some place → graph.ids[place]? = some id
  exists_place_iff {id : NodeId} :
    (∃ place, graph.place? id = some place) ↔ ∃ node ∈ nodes, node.id = id
  edges_eq : graph.edges = flows.filterMap graph.edge?
  dangling_eq : graph.dangling =
    (flows.filter fun flow => (graph.edge? flow).isNone).map Flow.ends

variable {nodes : List Node} {flows : List Flow} {graph : PlaceGraph} {microflow : Microflow}

/-- An id is found at the last of its nodes: adding another node with the id moves it there. -/
theorem place?_addNode (graph : PlaceGraph) (node : Node) (id : NodeId) :
    (graph.addNode node).place? id =
      if id = node.id then some graph.ids.length else graph.place? id := by
  rw [place?, addNode, List.lookup_cons]
  by_cases same : id = node.id
  · simp [same]
  · simp [same, beq_false_of_ne same, place?]

/-- The empty graph shows no nodes and no flows. -/
theorem shows_empty : Shows [] [] empty where
  ids_eq := rfl
  id_at := nofun
  exists_place_iff := by simp [place?, empty]
  edges_eq := rfl
  dangling_eq := rfl

/-- One more node is shown. All nodes are added before any flow, so no edge has to be moved when an
id gets another place. -/
theorem Shows.addNode (shows : Shows nodes [] graph) (node : Node) :
    Shows (nodes ++ [node]) [] (graph.addNode node) where
  ids_eq := by simp [PlaceGraph.addNode, shows.ids_eq]
  id_at {id place} known := by
    rw [place?_addNode] at known
    split at known
    · rename_i same
      obtain rfl := Option.some.inj known
      simp [PlaceGraph.addNode, same]
    · have before := shows.id_at known
      have inside := (List.getElem?_eq_some_iff.mp before).1
      exact (List.getElem?_append_left inside).trans before
  exists_place_iff {id} := by
    rw [place?_addNode]
    by_cases same : id = node.id
    · simp [same]
    · simp [same, Ne.symm same, shows.exists_place_iff]
  edges_eq := shows.edges_eq
  dangling_eq := shows.dangling_eq

/-- Adding a flow moves no node. -/
theorem addFlow_frame (graph : PlaceGraph) (flow : Flow) :
    (graph.addFlow flow).ids = graph.ids ∧ (graph.addFlow flow).places = graph.places := by
  unfold addFlow
  split <;> exact ⟨rfl, rfl⟩

/-- One more flow is shown: as an edge if both ids have places, and as a dangling one otherwise. -/
theorem Shows.addFlow (shows : Shows nodes flows graph) (flow : Flow) :
    Shows nodes (flows ++ [flow]) (graph.addFlow flow) := by
  obtain ⟨ids, places⟩ := graph.addFlow_frame flow
  have place?_eq : (graph.addFlow flow).place? = graph.place? := by
    funext id
    rw [place?, place?, places]
  have edge?_eq : (graph.addFlow flow).edge? = graph.edge? := by
    funext other
    rw [edge?, edge?, place?_eq]
  constructor
  case ids_eq => rw [ids, shows.ids_eq]
  case id_at =>
    rw [place?_eq, ids]
    exact shows.id_at
  case exists_place_iff =>
    rw [place?_eq]
    exact shows.exists_place_iff
  case edges_eq =>
    rw [edge?_eq, List.filterMap_append, ← shows.edges_eq]
    cases isEdge : graph.edge? flow <;> simp [PlaceGraph.addFlow, isEdge]
  case dangling_eq =>
    rw [edge?_eq, List.filter_append, List.map_append, ← shows.dangling_eq]
    cases isEdge : graph.edge? flow <;> simp [PlaceGraph.addFlow, isEdge]

/-- The graph of a microflow shows all its nodes and flows. -/
theorem shows_ofMicroflow (microflow : Microflow) :
    Shows microflow.nodes microflow.flows (ofMicroflow microflow) := by
  have allNodes : ∀ nodes : List Node, Shows nodes [] (nodes.foldl PlaceGraph.addNode empty) := by
    intro nodes
    induction nodes using List.reverseRecOn with
    | nil => exact shows_empty
    | append_singleton nodes node inductionHypothesis =>
      rw [List.foldl_append]
      exact inductionHypothesis.addNode node
  unfold ofMicroflow
  induction microflow.flows using List.reverseRecOn with
  | nil => exact allNodes microflow.nodes
  | append_singleton flows flow inductionHypothesis =>
    rw [List.foldl_append]
    exact inductionHypothesis.addFlow flow

/-! ## Edges and flows -/

/-- The edge for a flow lies between the places for its ends. -/
theorem edge?_eq_some {flow : Flow} {edge : PlaceEdge} (isEdge : graph.edge? flow = some edge) :
    graph.place? flow.origin = some edge.origin ∧
      graph.place? flow.destination = some edge.target ∧ edge.link = flow.link := by
  obtain ⟨origin, atOrigin, withTarget⟩ := Option.bind_eq_some_iff.mp isEdge
  obtain ⟨target, atTarget, same⟩ := Option.bind_eq_some_iff.mp withTarget
  obtain rfl := Option.some.inj same
  exact ⟨atOrigin, atTarget, rfl⟩

section Edges

variable {id : NodeId} (shows : Shows microflow.nodes microflow.flows graph)
include shows

/-- An id has a place if a node has it. -/
theorem Shows.hasNode_eq (id : NodeId) : microflow.hasNode id = (graph.place? id).isSome := by
  rw [Bool.eq_iff_iff, Microflow.hasNode_iff, Option.isSome_iff_exists, shows.exists_place_iff]
  rfl

/-- Different ids have different places. -/
theorem Shows.place_eq_iff {one other : NodeId} {here there : Nat}
    (known : graph.place? one = some here) (knownOther : graph.place? other = some there) :
    there = here ↔ other = one := by
  constructor
  · rintro rfl
    exact Option.some.inj ((shows.id_at knownOther).symm.trans (shows.id_at known))
  · rintro rfl
    exact Option.some.inj (knownOther.symm.trans known)

/-- The flows that are edges are those that are wired. -/
theorem Shows.wires_eq (flow : Flow) : microflow.wires flow = (graph.edge? flow).isSome := by
  rw [Microflow.wires, shows.hasNode_eq, shows.hasNode_eq, edge?]
  cases graph.place? flow.origin <;> cases graph.place? flow.destination <;> simp

/-- The dangling flows are listed in stored order, with the ids at both ends. -/
theorem Shows.dangling_eq_danglingFlows :
    graph.dangling = microflow.danglingFlows.map Flow.ends := by
  simp only [shows.dangling_eq, Microflow.danglingFlows, shows.wires_eq, Option.not_isSome]

/-- Edges are counted as the wired flows that they stand for. -/
theorem Shows.countP_edges {counted : PlaceEdge → Bool} {countedFlow : Flow → Bool}
    (same : ∀ flow edge, graph.edge? flow = some edge → counted edge = countedFlow flow) :
    graph.edges.countP counted = microflow.wiring.flows.countP countedFlow := by
  rw [shows.edges_eq, Microflow.wiring, List.countP_filterMap, List.countP_filter]
  congr 1
  funext flow
  rw [shows.wires_eq]
  cases isEdge : graph.edge? flow with
  | none => simp
  | some edge => simp [same flow edge isEdge]

/-- There is one edge for each flow that resolves. Two flows between the same nodes are two edges.
-/
theorem Shows.length_edges : graph.edges.length = microflow.wiring.flows.length := by
  have counted : graph.edges.countP (fun _ => true) =
      microflow.wiring.flows.countP fun _ => true :=
    shows.countP_edges fun _ _ _ => rfl
  rwa [List.countP_true, List.countP_true] at counted

/-- No node has an id without a place. -/
theorem Shows.not_names (unplaced : graph.place? id = none) : ¬ microflow.Names id := by
  rw [← Microflow.hasNode_iff, shows.hasNode_eq, unplaced]
  exact Bool.false_ne_true

/-- The edges from the place of an id are the flows from that id. -/
theorem Shows.outgoingCount_eq : graph.outgoingCount id = microflow.wiring.outDegree id := by
  rw [outgoingCount]
  cases atId : graph.place? id with
  | none =>
    refine (Nat.eq_zero_of_not_pos fun isLeft => ?_).symm
    obtain ⟨flow, resolved, rfl⟩ := Microflow.outDegree_pos.mp isLeft
    exact shows.not_names atId resolved.origin
  | some place =>
    refine shows.countP_edges fun flow edge isEdge => ?_
    have leaves := shows.place_eq_iff atId (edge?_eq_some isEdge).1
    exact Bool.eq_iff_iff.mpr (by simpa using leaves)

/-- The edges to the place of an id are the flows to that id. -/
theorem Shows.incomingCount_eq : graph.incomingCount id = microflow.wiring.inDegree id := by
  rw [incomingCount]
  cases atId : graph.place? id with
  | none =>
    refine (Nat.eq_zero_of_not_pos fun isEntered => ?_).symm
    obtain ⟨flow, resolved, rfl⟩ := Microflow.inDegree_pos.mp isEntered
    exact shows.not_names atId resolved.destination
  | some place =>
    refine shows.countP_edges fun flow edge isEdge => ?_
    have enters := shows.place_eq_iff atId (edge?_eq_some isEdge).2.1
    exact Bool.eq_iff_iff.mpr (by simpa using enters)

/-- The edges that leave a place are those for the wired flows that leave its id, in the same order.
-/
theorem Shows.outgoing_eq :
    graph.outgoing id = (microflow.wiring.departures id).map Flow.arrival := by
  rw [outgoing]
  cases atId : graph.place? id with
  | none =>
    have nothing : microflow.wiring.departures id = [] := by
      refine List.eq_nil_iff_forall_not_mem.mpr fun flow leaves => ?_
      rw [Microflow.departures_eq, List.mem_reverse, Microflow.mem_leaving] at leaves
      obtain ⟨resolved, rfl⟩ := leaves
      exact shows.not_names atId resolved.origin
    rw [nothing, List.map_nil]
  | some place =>
    simp only [Wiring.departures, Microflow.wiring, shows.edges_eq, List.filterMap_reverse,
      List.filter_filterMap, List.filterMap_filterMap, List.map_reverse, ← List.filterMap_eq_map,
      List.filterMap_filter]
    congr 2
    funext flow
    have wires := shows.wires_eq flow
    cases isEdge : graph.edge? flow with
    | none => simp [wires, isEdge]
    | some edge =>
      obtain ⟨atOrigin, atTarget, link⟩ := edge?_eq_some isEdge
      have same := shows.place_eq_iff atId atOrigin
      have there := shows.id_at atTarget
      by_cases leaves : flow.origin = id
      · simp [wires, isEdge, same.mpr leaves, leaves, Option.filter_some, arrival?, there, link,
          Flow.arrival]
      · simp [wires, isEdge, mt same.mp leaves, leaves]

/-! ## Reachable ids -/

/-- Arrows lead between the places for ids where flows lead between the ids. -/
theorem Shows.arrow_iff {here there : Nat} :
    Digraph.Arrow graph.arrows here there ↔ ∃ one other, microflow.Leads one other ∧
      graph.place? one = some here ∧ graph.place? other = some there := by
  simp only [Digraph.Arrow, arrows, shows.edges_eq, List.mem_map, List.mem_filterMap]
  constructor
  · rintro ⟨edge, ⟨flow, stored, isEdge⟩, same⟩
    obtain ⟨rfl, rfl⟩ := Prod.mk.inj same
    obtain ⟨atOrigin, atTarget, _⟩ := edge?_eq_some isEdge
    have wires : microflow.wires flow = true := by rw [shows.wires_eq, isEdge, Option.isSome_some]
    have resolved := Microflow.mem_wiring_flows.mp (List.mem_filter.mpr ⟨stored, wires⟩)
    exact ⟨_, _, ⟨flow, resolved, rfl, rfl⟩, atOrigin, atTarget⟩
  · rintro ⟨_, _, ⟨flow, resolved, rfl, rfl⟩, atOrigin, atTarget⟩
    exact ⟨⟨here, there, flow.link⟩, ⟨flow, resolved.stored, by simp [edge?, atOrigin, atTarget]⟩,
      rfl⟩

/-- Walks along edges are walks along flows. -/
theorem Shows.reaches_iff {place : Nat} (atId : graph.place? id = some place) {met : Nat} :
    Digraph.Reaches graph.arrows place met ↔
      ∃ target, graph.place? target = some met ∧ microflow.Reaches id target := by
  constructor
  · intro reached
    induction reached with
    | refl => exact ⟨id, atId, Relation.ReflTransGen.refl⟩
    | tail _ arrow inductionHypothesis =>
      obtain ⟨before, atBefore, reached⟩ := inductionHypothesis
      obtain ⟨one, other, leads, atOne, atOther⟩ := shows.arrow_iff.mp arrow
      obtain rfl := (shows.place_eq_iff atBefore atOne).mp rfl
      exact ⟨other, atOther, reached.tail leads⟩
  · rintro ⟨target, atTarget, reached⟩
    induction reached generalizing met with
    | refl => exact Option.some.inj (atId.symm.trans atTarget) ▸ Relation.ReflTransGen.refl
    | tail _ leads inductionHypothesis =>
      obtain ⟨flow, resolved, rfl, rfl⟩ := leads
      obtain ⟨origin, atOrigin⟩ := shows.exists_place_iff.mpr resolved.origin
      exact (inductionHypothesis atOrigin).tail
        (shows.arrow_iff.mpr ⟨_, _, ⟨flow, resolved, rfl, rfl⟩, atOrigin, atTarget⟩)

/-- From a place the search reaches the ids that flows lead to, and the id itself. -/
theorem Shows.mem_reachableFrom {target : NodeId} :
    target ∈ graph.reachableFrom id ↔ microflow.Names id ∧ microflow.Reaches id target := by
  rw [reachableFrom]
  cases atId : graph.place? id with
  | none => exact iff_of_false List.not_mem_nil fun known => shows.not_names atId known.1
  | some place =>
    have named : microflow.Names id := shows.exists_place_iff.mp ⟨place, atId⟩
    simp only [List.mem_filterMap, Digraph.mem_visits, List.mem_singleton, exists_eq_left,
      shows.reaches_iff atId, named, true_and]
    constructor
    · rintro ⟨met, ⟨other, atOther, reached⟩, there⟩
      exact Option.some.inj ((shows.id_at atOther).symm.trans there) ▸ reached
    · intro reached
      obtain ⟨met, atTarget⟩ : ∃ met, graph.place? target = some met := by
        rcases reached.cases_tail with rfl | ⟨_, _, _, resolved, _, rfl⟩
        · exact ⟨place, atId⟩
        · exact shows.exists_place_iff.mpr resolved.destination
      exact ⟨met, ⟨target, atTarget, reached⟩, shows.id_at atTarget⟩

/-- Some walk along edges returns to its start exactly if some walk along flows does. The places of
nodes without edges, which share their id with a later node, are on no walk. -/
theorem Shows.isCyclic_iff :
    Digraph.hasCycle graph.arrows = true ↔ ∃ id, Relation.TransGen microflow.Leads id id := by
  rw [Digraph.hasCycle_iff]
  constructor
  · rintro ⟨place, cycle⟩
    obtain ⟨before, reached, arrow⟩ := Relation.TransGen.tail'_iff.mp cycle
    obtain ⟨one, other, leads, atOne, atOther⟩ := shows.arrow_iff.mp arrow
    obtain ⟨target, atTarget, walked⟩ := (shows.reaches_iff atOther).mp reached
    obtain rfl : target = one := (shows.place_eq_iff atOne atTarget).mp rfl
    exact ⟨other, Relation.TransGen.tail' walked leads⟩
  · rintro ⟨id, cycle⟩
    obtain ⟨before, reached, leads⟩ := Relation.TransGen.tail'_iff.mp cycle
    obtain ⟨flow, resolved, rfl, rfl⟩ := leads
    obtain ⟨origin, atOrigin⟩ := shows.exists_place_iff.mpr resolved.origin
    obtain ⟨place, atId⟩ := shows.exists_place_iff.mpr resolved.destination
    have arrow : Digraph.Arrow graph.arrows origin place :=
      shows.arrow_iff.mpr ⟨_, _, ⟨flow, resolved, rfl, rfl⟩, atOrigin, atId⟩
    exact ⟨place, Relation.TransGen.tail' ((shows.reaches_iff atId).mpr ⟨_, atOrigin, reached⟩) arrow⟩

end Edges

/-- What a graph of places tells. -/
def view (graph : PlaceGraph) : GraphView where
  dangling := graph.dangling
  edgeCount := graph.edges.length
  outgoing := graph.outgoing
  outgoingCount := graph.outgoingCount
  incomingCount := graph.incomingCount
  reachableFrom := graph.reachableFrom
  isCyclic := Digraph.hasCycle graph.arrows

end PlaceGraph

/-- A graph tells the same as the wiring. -/
theorem PlaceGraph.Shows.faithful {graph : PlaceGraph} {microflow : Microflow}
    (shows : Shows microflow.nodes microflow.flows graph) : graph.view.Faithful microflow := by
  have wiring := faithful_wiringView microflow
  constructor
  case dangling_eq => exact shows.dangling_eq_danglingFlows.trans wiring.dangling_eq
  case edgeCount_add =>
    rw [view, shows.length_edges, shows.dangling_eq_danglingFlows]
    exact wiring.edgeCount_add
  case outgoing_eq => exact fun id => shows.outgoing_eq.trans (wiring.outgoing_eq id)
  case outgoingCount_eq => exact fun id => shows.outgoingCount_eq.trans (wiring.outgoingCount_eq id)
  case incomingCount_eq => exact fun id => shows.incomingCount_eq.trans (wiring.incomingCount_eq id)
  case reachableFrom_eq_nil =>
    intro id unnamed
    exact List.eq_nil_iff_forall_not_mem.mpr fun target met =>
      unnamed (shows.mem_reachableFrom.mp met).1
  case mem_reachableFrom =>
    intro id named target
    exact shows.mem_reachableFrom.trans (and_iff_right named)
  case isCyclic_iff => exact shows.isCyclic_iff

/-- The graph of places of a microflow, whatever its ids and flows are, tells exactly what is
stored: the flows that dangle are those with an end that names no node, in stored order, and all
others are edges; those that leave an id are told newest first, with their sides and cases, and
counted, and so are those that enter it; the ids reached from an id that names a node are those in
the reflexive-transitive closure of the flows; and there is a cycle if their transitive closure
relates an id to itself. The wiring tells the same. -/
theorem views_faithful (microflow : Microflow) :
    (PlaceGraph.ofMicroflow microflow).view.Faithful microflow ∧
      microflow.wiringView.Faithful microflow :=
  ⟨(PlaceGraph.shows_ofMicroflow microflow).faithful, faithful_wiringView microflow⟩

/-- The structural rules find in the graph of places of a microflow what they find in its wiring,
each rule the same breaches in the same order. -/
theorem violationsWith_placeGraph (microflow : Microflow) :
    microflow.violationsWith (PlaceGraph.ofMicroflow microflow).view = microflow.violations :=
  Microflow.violationsWith_congr (PlaceGraph.shows_ofMicroflow microflow).faithful
    (faithful_wiringView microflow)

end FlowModel
