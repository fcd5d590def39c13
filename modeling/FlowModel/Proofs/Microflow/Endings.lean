import FlowModel.Proofs.Microflow.Growth

/-!
# Ends behind a tail

An ending is an end event with a plain flow into it, wherever it stands and whatever it returns. A
microflow that an ending behind some tail completes is a sketch up to that tail
(`sketch_of_endedBehind`), and every sketch that promises no other id is completed by an ending
(`Sketch.violations_endedBehind`). The promise is needed: flows other than the one from the tail
may lead to the id of the ending before its node is there.
-/

namespace FlowModel

/-- An end event, and the sides to which a plain flow into it attaches. -/
structure Ending where
  id : NodeId
  position : Position
  size : Size
  value : String
  originSide : Side
  destinationSide : Side
deriving DecidableEq, Repr, Inhabited

namespace Ending

/-- The end event. -/
def node (ending : Ending) : Node :=
  ⟨ending.id, ending.position, ending.size, .endEvent ending.value⟩

/-- The flow from a tail into the end event. -/
def flow (ending : Ending) (tail : NodeId) : Flow :=
  ⟨tail, ending.id, ending.originSide, ending.destinationSide, none⟩

end Ending

namespace Microflow

/-- The microflow with an ending behind a tail. -/
def endedBehind (microflow : Microflow) (tail : NodeId) (ending : Ending) : Microflow :=
  microflow.extended [ending.node] [ending.flow tail]

variable {microflow : Microflow} {promised : NodeId → Prop} {tail : NodeId} {ending : Ending}

/-- An ending that keeps the promise of a sketch completes it. -/
theorem Sketch.violations_endedBehind (sketch : microflow.Sketch promised (some tail))
    (fresh : ¬ microflow.Names ending.id) (kept : ∀ id, promised id → id = ending.id) :
    (microflow.endedBehind tail ending).violations = [] := by
  have continues : microflow.Continues tail [ending.node] [ending.flow tail] none :=
    continues_single fresh sketch.tailNamed rfl rfl rfl rfl (Or.inl ⟨rfl, rfl⟩)
  have ended : (microflow.endedBehind tail ending).Sketch (fun _ => False) none :=
    sketch.extend continues fun id isPromised =>
      Or.inl ⟨ending.node, List.mem_singleton_self _, (kept id isPromised).symm⟩
  exact violations_eq_nil_iff.mpr ended.regular

/-- Where no flow leaves the destination of the last one, only walks that end there use it. -/
theorem reflTransGen_linkedBy_of_concat {flows : List Flow} {last : Flow}
    (sink : ∀ flow ∈ flows, flow.origin ≠ last.destination)
    (loopless : last.origin ≠ last.destination) {origin target : NodeId}
    (elsewhere : target ≠ last.destination)
    (reached : Relation.ReflTransGen (LinkedBy (flows ++ [last])) origin target) :
    Relation.ReflTransGen (LinkedBy flows) origin target := by
  induction reached with
  | refl => exact Relation.ReflTransGen.refl
  | @tail middle target _ linked inductionHypothesis =>
    obtain ⟨flow, isFlow, leaves, enters⟩ := linked
    rcases List.mem_append.mp isFlow with stored | isLast
    · exact (inductionHypothesis (leaves ▸ sink flow stored)).tail ⟨flow, stored, leaves, enters⟩
    · obtain rfl := List.mem_singleton.mp isLast
      exact absurd enters.symm elsewhere

/-- In a sketch without an open tail control can pass through every node that a plain flow
leaves. -/
theorem Sketch.isPassing_of_plain (sketch : microflow.Sketch promised none) {node : Node}
    (stored : node ∈ microflow.nodes) {flow : Flow} (isFlow : flow ∈ microflow.flows)
    (leaves : flow.origin = node.id) (plain : flow.label = none) : node.isPassing = true := by
  have notSplit : node.isSplit = false := by
    refine Bool.eq_false_iff.mpr fun isSplit => ?_
    obtain ⟨whenTrue, whenFalse, isTrue, isFalse, permutation, _⟩ :=
      sketch.branches node stored isSplit
    have listed : flow ∈ [whenTrue, whenFalse] :=
      permutation.mem_iff.mp (List.mem_filter.mpr ⟨isFlow, by simpa using leaves⟩)
    rcases List.mem_pair.mp listed with rfl | rfl
    · exact nomatch plain.symm.trans isTrue
    · exact nomatch plain.symm.trans isFalse
  have notEnd : node.isEnd = false :=
    Bool.eq_false_iff.mpr fun isEnd => sketch.endNotLeft node stored isEnd flow isFlow leaves
  have notParameter : node.isParameter = false :=
    Bool.eq_false_iff.mpr fun isParameter =>
      (sketch.parameterApart node stored isParameter flow isFlow).2 leaves
  simp [Node.isPassing, notSplit, notEnd, notParameter]

/-! ## Taking an ending away -/

section Ended

/-- One node is added. -/
theorem mem_endedBehind_nodes {node : Node} :
    node ∈ (microflow.endedBehind tail ending).nodes ↔
      node ∈ microflow.nodes ∨ node = ending.node := by
  simp [endedBehind]

/-- One flow is added. -/
theorem mem_endedBehind_flows {flow : Flow} :
    flow ∈ (microflow.endedBehind tail ending).flows ↔
      flow ∈ microflow.flows ∨ flow = ending.flow tail := by
  simp [endedBehind]

/-- One id is added, which need not be a new one. -/
theorem names_endedBehind {id : NodeId} :
    (microflow.endedBehind tail ending).Names id ↔ microflow.Names id ∨ id = ending.id := by
  rw [endedBehind, names_extended]
  simp [Ending.node, eq_comm]

variable (whole : (microflow.endedBehind tail ending).Sketch (fun _ => False) none)
include whole

/-- Nothing leaves an ending. -/
theorem Sketch.origin_ne_ending {flow : Flow}
    (isFlow : flow ∈ (microflow.endedBehind tail ending).flows) : flow.origin ≠ ending.id :=
  whole.endNotLeft ending.node (mem_endedBehind_nodes.mpr (Or.inr rfl)) rfl flow isFlow

/-- The tail before an ending is a node through which control can pass. -/
theorem Sketch.tailPasses_before :
    ∃ node ∈ microflow.nodes, node.id = tail ∧ node.isPassing = true := by
  have into : ending.flow tail ∈ (microflow.endedBehind tail ending).flows :=
    mem_endedBehind_flows.mpr (Or.inr rfl)
  obtain ⟨node, stored, same⟩ := (names_endedBehind.mp (whole.origins _ into)).resolve_right
    (whole.origin_ne_ending into)
  exact ⟨node, stored, same,
    whole.isPassing_of_plain (mem_endedBehind_nodes.mpr (Or.inl stored)) into same.symm rfl⟩

/-- The branches of a split meet without the ending: it is no merge, and no way to a merge leads
through it. -/
theorem Sketch.branches_before (fresh : ¬ microflow.Names ending.id) {node : Node}
    (stored : node ∈ microflow.nodes) (isSplit : node.isSplit = true) :
    BranchesMeet microflow.nodes microflow.flows node.id := by
  have isNode : node ∈ (microflow.endedBehind tail ending).nodes :=
    mem_endedBehind_nodes.mpr (Or.inl stored)
  have into : ending.flow tail ∈ (microflow.endedBehind tail ending).flows :=
    mem_endedBehind_flows.mpr (Or.inr rfl)
  obtain ⟨whenTrue, whenFalse, isTrue, isFalse, permutation, merge, mergeIsNode, isMerge, fromTrue,
    fromFalse⟩ := whole.branches node isNode isSplit
  have notTail : tail ≠ node.id := by
    intro same
    have passes := whole.isPassing_of_plain isNode into same rfl
    simp [Node.isPassing, isSplit] at passes
  have same : (microflow.endedBehind tail ending).flows.filter (fun flow => flow.origin = node.id) =
      microflow.flows.filter fun flow => flow.origin = node.id := by
    simp [endedBehind, Ending.flow, notTail]
  have mergeStored : merge ∈ microflow.nodes := by
    refine (mem_endedBehind_nodes.mp mergeIsNode).resolve_right ?_
    rintro rfl
    exact Bool.false_ne_true isMerge
  have reaches {id : NodeId}
      (reached : Relation.ReflTransGen (LinkedBy (microflow.endedBehind tail ending).flows) id
        merge.id) : Relation.ReflTransGen (LinkedBy microflow.flows) id merge.id :=
    reflTransGen_linkedBy_of_concat
      (fun flow isFlow => whole.origin_ne_ending (mem_endedBehind_flows.mpr (Or.inl isFlow)))
      (whole.origin_ne_ending into) (fun same => fresh ⟨merge, mergeStored, same⟩) reached
  exact ⟨whenTrue, whenFalse, isTrue, isFalse, same ▸ permutation, merge, mergeStored, isMerge,
    reaches fromTrue, reaches fromFalse⟩

/-- Without its ending a microflow is a sketch up to the tail, which may promise the id of the
ending. -/
theorem Sketch.before_ending (fresh : ¬ microflow.Names ending.id) :
    microflow.Sketch (fun id => id = ending.id) (some tail) := by
  have old {node : Node} (stored : node ∈ microflow.nodes) :
      node ∈ (microflow.endedBehind tail ending).nodes := mem_endedBehind_nodes.mpr (Or.inl stored)
  have before {flow : Flow} (stored : flow ∈ microflow.flows) :
      flow ∈ (microflow.endedBehind tail ending).flows := mem_endedBehind_flows.mpr (Or.inl stored)
  constructor
  case distinct => exact whole.distinct.sublist ((List.sublist_append_left ..).map _)
  case oneStart => simpa [endedBehind, Ending.node, Node.isStart] using whole.oneStart
  case origins =>
    intro flow stored
    exact (names_endedBehind.mp (whole.origins flow (before stored))).resolve_right
      (whole.origin_ne_ending (before stored))
  case destinations =>
    intro flow stored
    exact names_endedBehind.mp ((whole.destinations flow (before stored)).resolve_right id)
  case startNotEntered =>
    exact fun node stored isStart flow isFlow =>
      whole.startNotEntered node (old stored) isStart flow (before isFlow)
  case entered =>
    intro node stored notStart notParameter
    obtain ⟨flow, isFlow, enters⟩ := whole.entered node (old stored) notStart notParameter
    -- The last flow enters the ending, whose id no other node has.
    rcases mem_endedBehind_flows.mp isFlow with isOld | rfl
    · exact ⟨flow, isOld, enters⟩
    · exact absurd ⟨node, stored, enters.symm⟩ fresh
  case branches => exact fun node => whole.branches_before fresh
  case endNotLeft =>
    exact fun node stored isEnd flow isFlow =>
      whole.endNotLeft node (old stored) isEnd flow (before isFlow)
  case acyclic => exact whole.acyclic.anti (List.map_subset _ (List.subset_append_left ..))
  case caseFromSplit =>
    intro flow isFlow labeled
    obtain ⟨node, isNode, same, isSplit⟩ := whole.caseFromSplit flow (before isFlow) labeled
    rcases mem_endedBehind_nodes.mp isNode with isOld | rfl
    · exact ⟨node, isOld, same, isSplit⟩
    · exact absurd isSplit Bool.false_ne_true
  case parameterApart =>
    exact fun node stored isParameter flow isFlow =>
      whole.parameterApart node (old stored) isParameter flow (before isFlow)
  case left =>
    intro node stored notEnd notParameter notTail
    obtain ⟨flow, isFlow, leaves⟩ :=
      whole.left node (old stored) notEnd notParameter (Option.some_ne_none node.id).symm
    rcases mem_endedBehind_flows.mp isFlow with isOld | rfl
    · exact ⟨flow, isOld, leaves⟩
    · exact absurd (congrArg some leaves) notTail
  case tailPasses =>
    intro other isOther
    obtain rfl := Option.some.inj isOther
    exact whole.tailPasses_before

end Ended

/-- What an ending completes is a sketch up to the tail. -/
theorem sketch_of_endedBehind (distinct : (microflow.nodes.map Node.id).Nodup)
    (fresh : ¬ microflow.Names ending.id)
    (accepted : (microflow.endedBehind tail ending).violations = []) :
    microflow.Sketch (fun id => id = ending.id) (some tail) := by
  have whole : (microflow.endedBehind tail ending).Sketch (fun _ => False) none := by
    refine sketch_iff_growing.mpr ⟨?_, violations_eq_nil_iff.mp accepted, nofun⟩
    refine distinct_extended distinct (List.nodup_singleton _) fun node isNew => ?_
    rwa [List.mem_singleton.mp isNew]
  exact whole.before_ending fresh

end Microflow
end FlowModel
