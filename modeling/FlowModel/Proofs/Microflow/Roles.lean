import Mathlib.Algebra.BigOperators.Group.Finset.Basic
import FlowModel.Proofs.Microflow.Growth

/-!
# Roles of ids

The structural rules neither ask for distinct ids nor for a single way out of activities and
merges. What they do ask for still gives every id a role: the nodes that share an id are all
start events, all end events or all parameters, or none of them is one. Everywhere but at ends
and parameters there is a way out, and two leave a split.

How many flows there are then decides whether another node than a split branches: with
distinct ids each has its one way out exactly when there are as many flows as nodes, with ends
and parameters left out and splits counted twice (`roles_and_exits`).
-/

namespace FlowModel

/-- A start event is neither an end event nor a parameter. -/
theorem Node.kind_of_isStart {node : Node} (isStart : node.isStart = true) :
    node.isEnd = false ∧ node.isParameter = false := by
  unfold Node.isStart at isStart
  unfold Node.isEnd Node.isParameter
  cases kind : node.kind <;> simp_all

/-- A split is neither an end event nor a parameter. -/
theorem Node.kind_of_isSplit {node : Node} (isSplit : node.isSplit = true) :
    node.isEnd = false ∧ node.isParameter = false := by
  unfold Node.isSplit at isSplit
  unfold Node.isEnd Node.isParameter
  cases kind : node.kind <;> simp_all

/-- A node is a split, an end event, a parameter or none of them. -/
theorem Node.role_cases (node : Node) :
    (node.isSplit = true ∧ node.isEnd = false ∧ node.isParameter = false) ∨
    (node.isSplit = false ∧ node.isEnd = true ∧ node.isParameter = false) ∨
    (node.isSplit = false ∧ node.isEnd = false ∧ node.isParameter = true) ∨
    (node.isSplit = false ∧ node.isEnd = false ∧ node.isParameter = false) := by
  unfold Node.isSplit Node.isEnd Node.isParameter
  cases node.kind <;> simp

namespace Microflow

variable {microflow : Microflow} {tail? : Option NodeId}

/-! ## Nodes that share an id -/

/-- A node that shares its id with a parameter is a parameter: other nodes are wired. -/
theorem Regular.isParameter_of_sameId (regular : microflow.Regular none) {one other : Node}
    (oneStored : one ∈ microflow.nodes) (otherStored : other ∈ microflow.nodes)
    (same : one.id = other.id) (isParameter : one.isParameter = true) :
    other.isParameter = true := by
  obtain ⟨notEntered, notLeft⟩ := regular.parameterApart one oneStored isParameter
  by_contra notParameter
  rw [Bool.not_eq_true] at notParameter
  by_cases isStart : other.isStart = true
  · have notEnd := (Node.kind_of_isStart isStart).1
    exact notLeft (same ▸ regular.left other otherStored notEnd notParameter (by simp))
  · rw [Bool.not_eq_true] at isStart
    exact notEntered (same ▸ regular.entered other otherStored isStart notParameter)

/-- A node that shares its id with a start event is a start event: others are entered. -/
theorem Regular.isStart_of_sameId (regular : microflow.Regular none) {one other : Node}
    (oneStored : one ∈ microflow.nodes) (otherStored : other ∈ microflow.nodes)
    (same : one.id = other.id) (isStart : one.isStart = true) : other.isStart = true := by
  have notEntered := regular.startNotEntered one oneStored isStart
  by_contra notStart
  rw [Bool.not_eq_true] at notStart
  by_cases isParameter : other.isParameter = true
  · have oneIsParameter :=
      regular.isParameter_of_sameId otherStored oneStored same.symm isParameter
    exact absurd (oneIsParameter.symm.trans (Node.kind_of_isStart isStart).2) (by decide)
  · rw [Bool.not_eq_true] at isParameter
    exact notEntered (same ▸ regular.entered other otherStored notStart isParameter)

/-- A node that shares its id with an end event is an end event: others are left. -/
theorem Regular.isEnd_of_sameId (regular : microflow.Regular none) {one other : Node}
    (oneStored : one ∈ microflow.nodes) (otherStored : other ∈ microflow.nodes)
    (same : one.id = other.id) (isEnd : one.isEnd = true) : other.isEnd = true := by
  have notLeft := regular.endNotLeft one oneStored isEnd
  by_contra notEnd
  rw [Bool.not_eq_true] at notEnd
  by_cases isParameter : other.isParameter = true
  · have oneIsParameter :=
      regular.isParameter_of_sameId otherStored oneStored same.symm isParameter
    exact absurd (oneIsParameter.symm.trans (Node.kind_of_isEnd isEnd).2) (by decide)
  · rw [Bool.not_eq_true] at isParameter
    exact notLeft (same ▸ regular.left other otherStored notEnd isParameter (by simp))

/-! ## Ways out -/

/-- In a microflow that keeps the rules all flows from an id leave it. -/
theorem flowsFrom_eq_leaving (regular : microflow.Regular tail?) (id : NodeId) :
    microflow.flowsFrom id = microflow.leaving id := by
  rw [leaving_eq regular.resolved, flowsFrom]
  simp only [beq_eq_decide]

/-- In a complete microflow control can leave every node but ends and parameters. It may be able to
do so in several ways. -/
theorem Regular.one_le_exits (regular : microflow.Regular none) {node : Node}
    (stored : node ∈ microflow.nodes) (notEnd : node.isEnd = false)
    (notParameter : node.isParameter = false) : 1 ≤ (microflow.flowsFrom node.id).length := by
  obtain ⟨flow, leaves⟩ := isLeft_iff_leaving.mp
    (regular.left node stored notEnd notParameter (by simp))
  rw [flowsFrom_eq_leaving regular]
  exact List.length_pos_of_mem leaves

/-- A split has exactly its two cases as exits. -/
theorem Regular.exits_of_isSplit (regular : microflow.Regular tail?) {node : Node}
    (stored : node ∈ microflow.nodes) (isSplit : node.isSplit = true) :
    (microflow.flowsFrom node.id).length = 2 := by
  obtain ⟨whenTrue, whenFalse, _, _, permutation⟩ := regular.bothCases node stored isSplit
  rw [flowsFrom_eq_leaving regular, permutation.length_eq]
  rfl

/-- An end event has no exit. -/
theorem Regular.exits_of_isEnd (regular : microflow.Regular tail?) {node : Node}
    (stored : node ∈ microflow.nodes) (isEnd : node.isEnd = true) :
    microflow.flowsFrom node.id = [] := by
  rw [flowsFrom_eq_leaving regular, List.eq_nil_iff_forall_not_mem]
  exact fun flow leaves =>
    regular.endNotLeft node stored isEnd (isLeft_iff_leaving.mpr ⟨flow, leaves⟩)

/-- A parameter has no exit. -/
theorem Regular.exits_of_isParameter (regular : microflow.Regular tail?) {node : Node}
    (stored : node ∈ microflow.nodes) (isParameter : node.isParameter = true) :
    microflow.flowsFrom node.id = [] := by
  rw [flowsFrom_eq_leaving regular, List.eq_nil_iff_forall_not_mem]
  exact fun flow leaves => (regular.parameterApart node stored isParameter).2
    (isLeft_iff_leaving.mpr ⟨flow, leaves⟩)

/-! ## Counting flows -/

/-- With distinct ids every flow is counted once, at the node it leaves. -/
theorem sum_exits (distinct : (microflow.nodes.map Node.id).Nodup)
    (named : ∀ flow ∈ microflow.flows, microflow.Names flow.origin) :
    (microflow.nodes.map fun node => (microflow.flowsFrom node.id).length).sum =
      microflow.flows.length := by
  let origins : Multiset NodeId := microflow.flows.map Flow.origin
  have counted : ∀ id, (microflow.flowsFrom id).length = origins.count id := by
    intro id
    simp only [origins, flowsFrom, Multiset.coe_count, List.count, List.countP_map,
      ← List.countP_eq_length_filter, Function.comp_def]
  have inside : ∀ id ∈ origins, id ∈ (microflow.nodes.map Node.id).toFinset := by
    intro id isOrigin
    obtain ⟨flow, stored, rfl⟩ := List.mem_map.mp (Multiset.mem_coe.mp isOrigin)
    obtain ⟨node, nodeStored, same⟩ := named flow stored
    exact List.mem_toFinset.mpr (List.mem_map.mpr ⟨node, nodeStored, same⟩)
  calc (microflow.nodes.map fun node => (microflow.flowsFrom node.id).length).sum
      = ((microflow.nodes.map Node.id).map fun id => origins.count id).sum := by
        simp only [counted, List.map_map, Function.comp_def]
    _ = ∑ id ∈ (microflow.nodes.map Node.id).toFinset, origins.count id :=
        (List.sum_toFinset _ distinct).symm
    _ = origins.card := Multiset.sum_count_eq_card inside
    _ = microflow.flows.length := by simp [origins]

/-- Whatever number is given to each node, with the fixed ones at splits, ends and parameters
and at least one elsewhere, its sum tells whether it is one elsewhere. -/
theorem passing_eq_one_iff {nodes : List Node} {exits : Node → Nat}
    (splits : ∀ node ∈ nodes, node.isSplit = true → exits node = 2)
    (ends : ∀ node ∈ nodes, node.isEnd = true → exits node = 0)
    (parameters : ∀ node ∈ nodes, node.isParameter = true → exits node = 0)
    (others : ∀ node ∈ nodes, node.isPassing = true → 1 ≤ exits node) :
    nodes.length + nodes.countP Node.isSplit ≤
        (nodes.map exits).sum + nodes.countP Node.isEnd + nodes.countP Node.isParameter ∧
      ((∀ node ∈ nodes, node.isPassing = true → exits node = 1) ↔
        (nodes.map exits).sum + nodes.countP Node.isEnd + nodes.countP Node.isParameter =
          nodes.length + nodes.countP Node.isSplit) := by
  induction nodes with
  | nil => simp
  | cons node later inductionHypothesis =>
    rw [List.forall_mem_cons] at splits ends parameters others
    obtain ⟨laterLeast, laterExact⟩ :=
      inductionHypothesis splits.2 ends.2 parameters.2 others.2
    have own : 1 + (if node.isSplit then 1 else 0) ≤
          exits node + (if node.isEnd then 1 else 0) + (if node.isParameter then 1 else 0) ∧
        ((node.isPassing = true → exits node = 1) ↔
          exits node + (if node.isEnd then 1 else 0) + (if node.isParameter then 1 else 0) =
            1 + (if node.isSplit then 1 else 0)) := by
      rcases node.role_cases with ⟨isSplit, notEnd, notParameter⟩ | ⟨notSplit, isEnd, notParameter⟩ |
        ⟨notSplit, notEnd, isParameter⟩ | ⟨notSplit, notEnd, notParameter⟩
      · simp [Node.isPassing, isSplit, notEnd, notParameter, splits.1 isSplit]
      · simp [Node.isPassing, notSplit, isEnd, notParameter, ends.1 isEnd]
      · simp [Node.isPassing, notSplit, notEnd, isParameter, parameters.1 isParameter]
      · have isPassing : node.isPassing = true := by
          simp [Node.isPassing, notSplit, notEnd, notParameter]
        simpa [isPassing, notSplit, notEnd, notParameter] using others.1 isPassing
    rw [List.forall_mem_cons, laterExact, own.2]
    simp only [List.length_cons, List.map_cons, List.sum_cons, List.countP_cons]
    omega

/-- What acceptance says about ids and ways out. Nodes that share an id agree on being a start
event, an end event or a parameter, so every lookup of an id finds the same role. Two flows
leave a split and at least one leaves every node through which control passes. With distinct
ids exactly one does everywhere if and only if the flows are as few as the nodes allow. -/
theorem roles_and_exits (accepted : microflow.violations = []) :
    (∀ one ∈ microflow.nodes, ∀ other ∈ microflow.nodes, one.id = other.id →
      one.isStart = other.isStart ∧ one.isEnd = other.isEnd ∧
        one.isParameter = other.isParameter) ∧
    (∀ node ∈ microflow.nodes, node.isSplit = true →
      (microflow.flowsFrom node.id).length = 2) ∧
    (∀ node ∈ microflow.nodes, node.isPassing = true →
      1 ≤ (microflow.flowsFrom node.id).length) ∧
    ((microflow.nodes.map Node.id).Nodup →
      ((∀ node ∈ microflow.nodes, node.isPassing = true →
          (microflow.flowsFrom node.id).length = 1) ↔
        microflow.flows.length + microflow.nodes.countP Node.isEnd +
            microflow.nodes.countP Node.isParameter =
          microflow.nodes.length + microflow.nodes.countP Node.isSplit)) := by
  have regular : microflow.Regular none := violations_eq_nil_iff.mp accepted
  have splits : ∀ node ∈ microflow.nodes, node.isSplit = true →
      (microflow.flowsFrom node.id).length = 2 :=
    fun node stored isSplit => regular.exits_of_isSplit stored isSplit
  have passing : ∀ node ∈ microflow.nodes, node.isPassing = true →
      1 ≤ (microflow.flowsFrom node.id).length := by
    intro node stored passes
    simp only [Node.isPassing, Bool.and_eq_true, Bool.not_eq_true'] at passes
    exact regular.one_le_exits stored passes.1.2 passes.2
  refine ⟨?_, splits, passing, ?_⟩
  · intro one oneStored other otherStored same
    refine ⟨Bool.eq_iff_iff.mpr ⟨?_, ?_⟩, Bool.eq_iff_iff.mpr ⟨?_, ?_⟩,
      Bool.eq_iff_iff.mpr ⟨?_, ?_⟩⟩
    · exact regular.isStart_of_sameId oneStored otherStored same
    · exact regular.isStart_of_sameId otherStored oneStored same.symm
    · exact regular.isEnd_of_sameId oneStored otherStored same
    · exact regular.isEnd_of_sameId otherStored oneStored same.symm
    · exact regular.isParameter_of_sameId oneStored otherStored same
    · exact regular.isParameter_of_sameId otherStored oneStored same.symm
  · intro distinct
    have ends : ∀ node ∈ microflow.nodes, node.isEnd = true →
        (microflow.flowsFrom node.id).length = 0 := fun node stored isEnd => by
      rw [regular.exits_of_isEnd stored isEnd, List.length_nil]
    have parameters : ∀ node ∈ microflow.nodes, node.isParameter = true →
        (microflow.flowsFrom node.id).length = 0 := fun node stored isParameter => by
      rw [regular.exits_of_isParameter stored isParameter, List.length_nil]
    rw [(passing_eq_one_iff splits ends parameters passing).2,
      sum_exits distinct fun flow stored => (regular.resolved flow stored).1]

/-- A start event, an activity with two ways out and an end event behind each of them. -/
def forked : Microflow :=
  { empty "Forked" .boolean with
    nodes := [
      ⟨0, .origin, ⟨20, 20⟩, .startEvent⟩,
      ⟨1, .origin, ⟨120, 60⟩, .activity (.other "Commit") .default⟩,
      ⟨2, .origin, ⟨20, 20⟩, .endEvent "true"⟩,
      ⟨3, .origin, ⟨20, 20⟩, .endEvent "false"⟩]
    flows := [
      ⟨0, 1, .right, .left, none⟩,
      ⟨1, 2, .right, .left, none⟩,
      ⟨1, 3, .right, .left, none⟩] }

/-- A split and an activity that share the id 1. The first of them is the split. -/
def twinned : Microflow :=
  { empty "Twinned" .boolean with
    nodes := [
      ⟨0, .origin, ⟨20, 20⟩, .startEvent⟩,
      ⟨1, .origin, ⟨90, 60⟩, .split "$Flag" "Flag"⟩,
      ⟨1, .origin, ⟨120, 60⟩, .activity (.other "Commit") .default⟩,
      ⟨2, .origin, ⟨40, 40⟩, .merge⟩,
      ⟨3, .origin, ⟨20, 20⟩, .endEvent "true"⟩]
    flows := [
      ⟨0, 1, .right, .left, none⟩,
      ⟨1, 2, .right, .left, some "true"⟩,
      ⟨1, 2, .bottom, .top, some "false"⟩,
      ⟨2, 3, .right, .left, none⟩] }

/-- An activity that two flows leave breaks no rule. -/
theorem roles_and_exits_forked :
    forked.violations = [] ∧ (forked.nodes.map Node.id).Nodup ∧
      ¬ ∀ node ∈ forked.nodes, node.isPassing = true →
        (forked.flowsFrom node.id).length = 1 := by
  have accepted : forked.violations = [] := by cbv
  have distinct : (forked.nodes.map Node.id).Nodup := by decide
  have counted := (roles_and_exits accepted).2.2.2 distinct
  exact ⟨accepted, distinct, counted.not.mpr (by decide)⟩

/-- Accepted microflows need not have distinct ids, not even ids that name one kind of node,
and with distinct ids an activity may still have several ways out. -/
theorem accepted_ambiguous :
    (twinned.violations = [] ∧ ¬ (twinned.nodes.map Node.id).Nodup ∧
      ∃ one ∈ twinned.nodes, ∃ other ∈ twinned.nodes,
        one.id = other.id ∧ one.isSplit ≠ other.isSplit) ∧
    (forked.violations = [] ∧ (forked.nodes.map Node.id).Nodup ∧
      ∃ node ∈ forked.nodes, node.isPassing = true ∧
        (forked.flowsFrom node.id).length = 2) := by
  refine ⟨⟨by cbv, by decide, by decide⟩, ⟨by cbv, by decide, by decide⟩⟩

end Microflow

end FlowModel
