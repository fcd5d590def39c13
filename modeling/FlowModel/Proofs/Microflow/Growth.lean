import FlowModel.Proofs.Microflow.Regularity

/-!
# Microflows that grow at an open tail

A microflow is drawn by appending nodes and flows behind those it has. What is appended goes
on from the open tail: new flows leave the tail or new nodes and enter new nodes only, each
before its target is left. Then all rules are kept, and another tail is open or none
(`Growing.extend`). Nodes before the tail are not touched: what enters and leaves them, and
where their branches meet, stays as it was.

The argument is about sketches, whose rules are read off the stored nodes and flows. A sketch
may have flows into ids that are only promised, as long as their nodes are drawn in the end
(`Sketch.extend`); without promises it is a growing microflow (`sketch_iff_growing`).
-/

namespace FlowModel

/-- Whether control passes through a node on one way: it may be the tail of a microflow
under construction. -/
def Node.isPassing (node : Node) : Bool := !node.isSplit && !node.isEnd && !node.isParameter

/-- A parameter is neither a start event nor a split. -/
theorem Node.kind_of_isParameter {node : Node} (isParameter : node.isParameter = true) :
    node.isStart = false ∧ node.isSplit = false := by
  unfold Node.isParameter at isParameter
  unfold Node.isStart Node.isSplit
  cases kind : node.kind <;> simp_all

/-- An end event is neither a split nor a parameter. -/
theorem Node.kind_of_isEnd {node : Node} (isEnd : node.isEnd = true) :
    node.isSplit = false ∧ node.isParameter = false := by
  unfold Node.isEnd at isEnd
  unfold Node.isSplit Node.isParameter
  cases kind : node.kind <;> simp_all

namespace Microflow

/-- The microflow with more nodes and flows behind its own. -/
def extended (microflow : Microflow) (nodes : List Node) (flows : List Flow) : Microflow :=
  { microflow with nodes := microflow.nodes ++ nodes, flows := microflow.flows ++ flows }

/-- A microflow with distinct ids that keeps the rules up to an open tail, through which
control can pass. -/
structure Growing (microflow : Microflow) (tail? : Option NodeId) : Prop where
  distinct : (microflow.nodes.map Node.id).Nodup
  regular : microflow.Regular tail?
  tailPasses :
    ∀ tail, tail? = some tail → ∃ node ∈ microflow.nodes, node.id = tail ∧ node.isPassing = true

/-- Some flow of a list leads from one id to the other. -/
def LinkedBy (flows : List Flow) (origin target : NodeId) : Prop :=
  ∃ flow ∈ flows, flow.origin = origin ∧ flow.destination = target

/-- New nodes and flows go on from the tail of a microflow to the next tail, if there is
one. The flows stand in an order in which none leaves a node before those that enter it. -/
structure Continues (microflow : Microflow) (tail : NodeId) (nodes : List Node) (flows : List Flow)
    (next? : Option NodeId) : Prop where
  fresh : ∀ node ∈ nodes, ¬ microflow.Names node.id
  distinct : (nodes.map Node.id).Nodup
  inner : ∀ node ∈ nodes, node.isStart = false ∧ node.isParameter = false
  origins : ∀ flow ∈ flows, flow.origin = tail ∨ ∃ node ∈ nodes, node.id = flow.origin
  destinations : ∀ flow ∈ flows, ∃ node ∈ nodes, node.id = flow.destination
  loopless : ∀ flow ∈ flows, flow.origin ≠ flow.destination
  ordered : flows.Pairwise fun earlier later => earlier.origin ≠ later.destination
  tailLeft : ∃ flow ∈ flows, flow.origin = tail
  entered : ∀ node ∈ nodes, ∃ flow ∈ flows, flow.destination = node.id
  left : ∀ node ∈ nodes, node.isEnd = false → next? ≠ some node.id →
    ∃ flow ∈ flows, flow.origin = node.id
  endNotLeft : ∀ node ∈ nodes, node.isEnd = true → ∀ flow ∈ flows, flow.origin ≠ node.id
  caseFromSplit :
    ∀ flow ∈ flows, flow.label ≠ none → ∃ node ∈ nodes, node.id = flow.origin ∧ node.isSplit = true
  branches : ∀ node ∈ nodes, node.isSplit = true → ∃ whenTrue whenFalse,
    whenTrue.label = some (caseLabel true) ∧ whenFalse.label = some (caseLabel false) ∧
    (flows.filter fun flow => flow.origin = node.id).Perm [whenTrue, whenFalse] ∧
    ∃ merge ∈ nodes, merge.isMerge = true ∧
      Relation.ReflTransGen (LinkedBy flows) whenTrue.destination merge.id ∧
      Relation.ReflTransGen (LinkedBy flows) whenFalse.destination merge.id
  nextPasses : ∀ next, next? = some next → ∃ node ∈ nodes, node.id = next ∧ node.isPassing = true

/-- Two flows leave the id, one for each case, and some merge can be reached along both. -/
def BranchesMeet (nodes : List Node) (flows : List Flow) (id : NodeId) : Prop :=
  ∃ whenTrue whenFalse,
    whenTrue.label = some (caseLabel true) ∧ whenFalse.label = some (caseLabel false) ∧
    (flows.filter fun flow => flow.origin = id).Perm [whenTrue, whenFalse] ∧
    ∃ merge ∈ nodes, merge.isMerge = true ∧
      Relation.ReflTransGen (LinkedBy flows) whenTrue.destination merge.id ∧
      Relation.ReflTransGen (LinkedBy flows) whenFalse.destination merge.id

/-- A microflow drawn up to an open tail, if there is one. It keeps the rules as far as its
stored nodes and flows tell, but flows may enter promised ids, whose nodes are still to be
drawn. -/
structure Sketch (microflow : Microflow) (promised : NodeId → Prop) (tail? : Option NodeId) :
    Prop where
  distinct : (microflow.nodes.map Node.id).Nodup
  oneStart : microflow.nodes.countP Node.isStart = 1
  origins : ∀ flow ∈ microflow.flows, microflow.Names flow.origin
  destinations : ∀ flow ∈ microflow.flows,
    microflow.Names flow.destination ∨ promised flow.destination
  startNotEntered : ∀ node ∈ microflow.nodes, node.isStart = true →
    ∀ flow ∈ microflow.flows, flow.destination ≠ node.id
  entered : ∀ node ∈ microflow.nodes, node.isStart = false → node.isParameter = false →
    ∃ flow ∈ microflow.flows, flow.destination = node.id
  branches : ∀ node ∈ microflow.nodes, node.isSplit = true →
    BranchesMeet microflow.nodes microflow.flows node.id
  endNotLeft : ∀ node ∈ microflow.nodes, node.isEnd = true →
    ∀ flow ∈ microflow.flows, flow.origin ≠ node.id
  acyclic : Digraph.Acyclic (microflow.flows.map fun flow => (flow.origin, flow.destination))
  caseFromSplit : ∀ flow ∈ microflow.flows, flow.label ≠ none →
    ∃ node ∈ microflow.nodes, node.id = flow.origin ∧ node.isSplit = true
  parameterApart : ∀ node ∈ microflow.nodes, node.isParameter = true →
    ∀ flow ∈ microflow.flows, flow.destination ≠ node.id ∧ flow.origin ≠ node.id
  left : ∀ node ∈ microflow.nodes, node.isEnd = false → node.isParameter = false →
    tail? ≠ some node.id → ∃ flow ∈ microflow.flows, flow.origin = node.id
  tailPasses :
    ∀ tail, tail? = some tail → ∃ node ∈ microflow.nodes, node.id = tail ∧ node.isPassing = true

variable {microflow : Microflow}

/-! ## Microflows without dangling flows -/

section Resolved

variable (resolved : ∀ flow ∈ microflow.flows, microflow.Names flow.origin ∧
    microflow.Names flow.destination)
include resolved

/-- Without dangling flows all flows resolve. -/
theorem resolves_iff {flow : Flow} : microflow.Resolves flow ↔ flow ∈ microflow.flows :=
  ⟨Resolves.stored, fun stored => ⟨stored, (resolved flow stored).1, (resolved flow stored).2⟩⟩

/-- Without dangling flows it is told by the stored flows which ids are entered. -/
theorem isEntered_iff {id : NodeId} :
    microflow.IsEntered id ↔ ∃ flow ∈ microflow.flows, flow.destination = id := by
  simp only [IsEntered, resolves_iff resolved]

/-- Without dangling flows it is told by the stored flows which ids are left. -/
theorem isLeft_iff {id : NodeId} : microflow.IsLeft id ↔
    ∃ flow ∈ microflow.flows, flow.origin = id := by
  simp only [IsLeft, resolves_iff resolved]

/-- Without dangling flows all flows lead on. -/
theorem leads_eq : microflow.Leads = LinkedBy microflow.flows := by
  funext origin target
  simp only [Leads, LinkedBy, resolves_iff resolved]

/-- Without dangling flows all flows from an id leave it. -/
theorem leaving_eq (id : NodeId) :
    microflow.leaving id = microflow.flows.filter fun flow => flow.origin = id := by
  apply List.filter_congr
  intro flow stored
  simp [resolved flow stored]

/-- Without dangling flows every flow is an arrow, in stored order. -/
theorem arrows_eq :
    microflow.wiring.arrows = microflow.flows.map fun flow => (flow.origin, flow.destination) := by
  have all : microflow.flows.filter microflow.wires = microflow.flows :=
    List.filter_eq_self.mpr fun flow stored => wires_iff.mpr (resolved flow stored)
  rw [Wiring.arrows, wiring, all]

end Resolved

/-! ## Branches of a split -/

/-- Among the flows that leave an id some flow of a case is the newest, if there is one. -/
theorem exists_isNewest {id : NodeId} {label : String} {flow : Flow}
    (leaves : flow ∈ microflow.leaving id) (labeled : flow.label = some label) :
    ∃ newest, microflow.IsNewest id label newest := by
  have found : ((microflow.leaving id).reverse.find? fun flow =>
      flow.label == some label).isSome := by
    rw [List.find?_isSome]
    exact ⟨flow, List.mem_reverse.mpr leaves, by simp [labeled]⟩
  obtain ⟨newest, isFound⟩ := Option.isSome_iff_exists.mp found
  exact ⟨newest, find?_leaving.mp isFound⟩

/-- Where exactly one flow for each case leaves, the branches are apart exactly if no merge can
be reached from both destinations. -/
theorem separates_iff_of_perm {id : NodeId} {whenTrue whenFalse : Flow}
    (isTrue : whenTrue.label = some (caseLabel true))
    (isFalse : whenFalse.label = some (caseLabel false))
    (permutation : (microflow.leaving id).Perm [whenTrue, whenFalse]) :
    microflow.Separates id ↔
      ¬ microflow.MeetsAtMerge whenTrue.destination whenFalse.destination := by
  have different : caseLabel true ≠ caseLabel false := by decide
  have oneOf : ∀ {flow}, flow ∈ microflow.leaving id → flow = whenTrue ∨ flow = whenFalse := by
    intro flow leaves
    simpa using permutation.mem_iff.mp leaves
  have onlyTrue : ∀ {flow}, microflow.IsNewest id (caseLabel true) flow → flow = whenTrue := by
    intro flow newest
    refine (oneOf newest.mem).resolve_right ?_
    rintro rfl
    exact different (Option.some.inj (newest.label_eq.symm.trans isFalse))
  have onlyFalse : ∀ {flow}, microflow.IsNewest id (caseLabel false) flow → flow = whenFalse := by
    intro flow newest
    refine (oneOf newest.mem).resolve_left ?_
    rintro rfl
    exact different (Option.some.inj (isTrue.symm.trans newest.label_eq))
  constructor
  · rintro ⟨newestTrue, newestFalse, ontoTrue, ontoFalse, apart⟩
    rwa [onlyTrue ontoTrue, onlyFalse ontoFalse] at apart
  · intro apart
    obtain ⟨newestTrue, ontoTrue⟩ := exists_isNewest (permutation.mem_iff.mpr (by simp)) isTrue
    obtain ⟨newestFalse, ontoFalse⟩ := exists_isNewest (permutation.mem_iff.mpr (by simp)) isFalse
    obtain rfl := onlyTrue ontoTrue
    obtain rfl := onlyFalse ontoFalse
    exact ⟨newestTrue, newestFalse, ontoTrue, ontoFalse, apart⟩

/-- More flows lead at least as far. -/
theorem reflTransGen_linkedBy_mono {fewer more : List Flow} (kept : fewer ⊆ more)
    {origin target : NodeId} (reached : Relation.ReflTransGen (LinkedBy fewer) origin target) :
    Relation.ReflTransGen (LinkedBy more) origin target := by
  refine Relation.ReflTransGen.mono (p := LinkedBy more) ?_ _ _ reached
  rintro _ _ ⟨flow, stored, leaves, enters⟩
  exact ⟨flow, kept stored, leaves, enters⟩

/-- Branches still meet among more nodes and flows, if no further flow leaves the id. -/
theorem BranchesMeet.mono {nodes moreNodes : List Node} {flows moreFlows : List Flow} {id : NodeId}
    (meets : BranchesMeet nodes flows id) (keptNodes : nodes ⊆ moreNodes)
    (keptFlows : flows ⊆ moreFlows)
    (same : (moreFlows.filter fun flow => flow.origin = id) =
      flows.filter fun flow => flow.origin = id) :
    BranchesMeet moreNodes moreFlows id := by
  obtain ⟨whenTrue, whenFalse, isTrue, isFalse, permutation, merge, stored, isMerge, fromTrue,
    fromFalse⟩ := meets
  exact ⟨whenTrue, whenFalse, isTrue, isFalse, same ▸ permutation, merge, keptNodes stored,
    isMerge, reflTransGen_linkedBy_mono keptFlows fromTrue,
    reflTransGen_linkedBy_mono keptFlows fromFalse⟩

/-! ## Extensions -/

section Extended

variable (nodes : List Node) (flows : List Flow)

/-- More nodes come behind those that are there. -/
@[simp] theorem extended_nodes :
    (microflow.extended nodes flows).nodes = microflow.nodes ++ nodes := rfl

/-- More flows come behind those that are there. -/
@[simp] theorem extended_flows :
    (microflow.extended nodes flows).flows = microflow.flows ++ flows := rfl

/-- With nothing more a microflow is what it was. -/
@[simp] theorem extended_nil : microflow.extended [] [] = microflow := by
  simp [extended]

/-- Growing twice is growing once by both parts. -/
@[simp] theorem extended_extended (laterNodes : List Node) (laterFlows : List Flow) :
    (microflow.extended nodes flows).extended laterNodes laterFlows =
      microflow.extended (nodes ++ laterNodes) (flows ++ laterFlows) := by
  simp [extended]

/-- An id is named by an old or by a new node. -/
theorem names_extended {id : NodeId} :
    (microflow.extended nodes flows).Names id ↔
      microflow.Names id ∨ ∃ node ∈ nodes, node.id = id := by
  simp [Names, or_and_right, exists_or]

/-- Ids stay distinct when the new ones are distinct and not in use. -/
theorem distinct_extended {nodes : List Node} {flows : List Flow}
    (distinct : (microflow.nodes.map Node.id).Nodup)
    (newDistinct : (nodes.map Node.id).Nodup) (fresh : ∀ node ∈ nodes, ¬ microflow.Names node.id) :
    ((microflow.extended nodes flows).nodes.map Node.id).Nodup := by
  rw [extended_nodes, List.map_append, List.nodup_append]
  refine ⟨distinct, newDistinct, ?_⟩
  intro old stored new added same
  obtain ⟨before, isOld, rfl⟩ := List.mem_map.mp stored
  obtain ⟨node, isNew, rfl⟩ := List.mem_map.mp added
  exact fresh node isNew ⟨before, isOld, same⟩

end Extended

/-! ## Sketches -/

section Sketch

variable {tail? : Option NodeId}

/-- A growing microflow has no dangling flows. -/
theorem Growing.resolved (growing : microflow.Growing tail?) :
    ∀ flow ∈ microflow.flows, microflow.Names flow.origin ∧ microflow.Names flow.destination :=
  growing.regular.resolved

/-- A sketch that promises nothing keeps the structural rules. Without promises no flow dangles, and
then what the wiring says of an id is what the stored flows say. -/
theorem Sketch.regular (sketch : microflow.Sketch (fun _ => False) tail?) :
    microflow.Regular tail? := by
  have resolved : ∀ flow ∈ microflow.flows,
      microflow.Names flow.origin ∧ microflow.Names flow.destination := fun flow stored =>
    ⟨sketch.origins flow stored, (sketch.destinations flow stored).resolve_right id⟩
  constructor
  case oneStart => exact sketch.oneStart
  case startNotEntered =>
    intro node stored isStart
    rw [isEntered_iff resolved]
    rintro ⟨flow, isFlow, enters⟩
    exact sketch.startNotEntered node stored isStart flow isFlow enters
  case resolved => exact resolved
  case entered =>
    intro node stored notStart notParameter
    exact (isEntered_iff resolved).mpr (sketch.entered node stored notStart notParameter)
  case bothCases =>
    intro node stored isSplit
    obtain ⟨whenTrue, whenFalse, isTrue, isFalse, permutation, _⟩ :=
      sketch.branches node stored isSplit
    exact ⟨whenTrue, whenFalse, isTrue, isFalse, (leaving_eq resolved node.id).symm ▸ permutation⟩
  case reconverges =>
    intro node stored isSplit
    obtain ⟨whenTrue, whenFalse, isTrue, isFalse, permutation, meets⟩ :=
      sketch.branches node stored isSplit
    rw [← leaving_eq resolved] at permutation
    rw [separates_iff_of_perm isTrue isFalse permutation, not_not]
    rwa [← leads_eq resolved] at meets
  case endNotLeft =>
    intro node stored isEnd
    rw [isLeft_iff resolved]
    rintro ⟨flow, isFlow, leaves⟩
    exact sketch.endNotLeft node stored isEnd flow isFlow leaves
  case acyclic => exact acyclic_arrows_iff.mp ((arrows_eq resolved).symm ▸ sketch.acyclic)
  case caseFromSplit =>
    intro flow isFlow labeled
    obtain ⟨node, stored, same, isSplit⟩ := sketch.caseFromSplit flow isFlow labeled
    exact (Option.any_eq_true ..).mpr
      ⟨node, (node?_eq_some_iff sketch.distinct).mpr ⟨stored, same⟩, isSplit⟩
  case parameterApart =>
    intro node stored isParameter
    rw [isEntered_iff resolved, isLeft_iff resolved]
    constructor
    · rintro ⟨flow, isFlow, enters⟩
      exact (sketch.parameterApart node stored isParameter flow isFlow).1 enters
    · rintro ⟨flow, isFlow, leaves⟩
      exact (sketch.parameterApart node stored isParameter flow isFlow).2 leaves
  case left =>
    intro node stored notEnd notParameter notTail
    exact (isLeft_iff resolved).mpr (sketch.left node stored notEnd notParameter notTail)

/-- A growing microflow is a sketch that promises nothing. This is the way back, by the same laws for
microflows without dangling flows. -/
theorem Growing.sketch (growing : microflow.Growing tail?) :
    microflow.Sketch (fun _ => False) tail? := by
  have resolved := growing.resolved
  have regular := growing.regular
  constructor
  case distinct => exact growing.distinct
  case oneStart => exact regular.oneStart
  case origins => exact fun flow stored => (resolved flow stored).1
  case destinations => exact fun flow stored => Or.inl (resolved flow stored).2
  case startNotEntered =>
    intro node stored isStart flow isFlow enters
    exact regular.startNotEntered node stored isStart
      ((isEntered_iff resolved).mpr ⟨flow, isFlow, enters⟩)
  case entered =>
    intro node stored notStart notParameter
    exact (isEntered_iff resolved).mp (regular.entered node stored notStart notParameter)
  case branches =>
    intro node stored isSplit
    obtain ⟨whenTrue, whenFalse, isTrue, isFalse, permutation⟩ :=
      regular.bothCases node stored isSplit
    have meets := regular.reconverges node stored isSplit
    rw [separates_iff_of_perm isTrue isFalse permutation, not_not] at meets
    rw [MeetsAtMerge, Reaches, leads_eq resolved] at meets
    exact ⟨whenTrue, whenFalse, isTrue, isFalse, leaving_eq resolved node.id ▸ permutation, meets⟩
  case endNotLeft =>
    intro node stored isEnd flow isFlow leaves
    exact regular.endNotLeft node stored isEnd ((isLeft_iff resolved).mpr ⟨flow, isFlow, leaves⟩)
  case acyclic => exact arrows_eq resolved ▸ acyclic_arrows_iff.mpr regular.acyclic
  case caseFromSplit =>
    intro flow isFlow labeled
    obtain ⟨node, found, isSplit⟩ :=
      (Option.any_eq_true ..).mp (regular.caseFromSplit flow isFlow labeled)
    obtain ⟨stored, same⟩ := node?_mem found
    exact ⟨node, stored, same, isSplit⟩
  case parameterApart =>
    intro node stored isParameter flow isFlow
    have apart := regular.parameterApart node stored isParameter
    rw [isEntered_iff resolved, isLeft_iff resolved] at apart
    exact ⟨fun enters => apart.1 ⟨flow, isFlow, enters⟩,
      fun leaves => apart.2 ⟨flow, isFlow, leaves⟩⟩
  case left =>
    intro node stored notEnd notParameter notTail
    exact (isLeft_iff resolved).mp (regular.left node stored notEnd notParameter notTail)
  case tailPasses => exact growing.tailPasses

/-- A sketch without promises keeps the rules like any growing microflow. -/
theorem sketch_iff_growing :
    microflow.Sketch (fun _ => False) tail? ↔ microflow.Growing tail? :=
  ⟨fun sketch => ⟨sketch.distinct, sketch.regular, sketch.tailPasses⟩, Growing.sketch⟩

/-- The tail of a sketch is one of its nodes. -/
theorem Sketch.tailNamed {promised : NodeId → Prop} {tail : NodeId}
    (sketch : microflow.Sketch promised (some tail)) : microflow.Names tail := by
  obtain ⟨node, stored, same, _⟩ := sketch.tailPasses tail rfl
  exact ⟨node, stored, same⟩

/-- The tail of a growing microflow is one of its nodes. -/
theorem Growing.tailNamed {tail : NodeId} (growing : microflow.Growing (some tail)) :
    microflow.Names tail :=
  growing.sketch.tailNamed

end Sketch

/-! ## The first tail -/

/-- A start event behind parameters is an open tail. There are no flows yet, so only the rules that ask
for one could be broken; parameters are exempt from them, and so are the start event and the tail. -/
theorem growing_start {start : Node}
    (parameters : ∀ node ∈ microflow.nodes, node.isParameter = true)
    (flowless : microflow.flows = []) (distinct : (microflow.nodes.map Node.id).Nodup)
    (fresh : ¬ microflow.Names start.id) (isStart : start.kind = .startEvent) :
    (microflow.extended [start] []).Growing (some start.id) := by
  have noFlow : (microflow.extended [start] []).flows = [] := by simp [flowless]
  have kinds :
      ∀ node ∈ (microflow.extended [start] []).nodes, node = start ∨ node.isParameter = true := by
    intro node stored
    rcases List.mem_append.mp stored with old | isNew
    · exact Or.inr (parameters node old)
    · exact Or.inl (List.mem_singleton.mp isNew)
  rw [← sketch_iff_growing]
  constructor
  case distinct =>
    apply distinct_extended distinct (by simp)
    intro node isNew
    exact (List.mem_singleton.mp isNew).symm ▸ fresh
  case oneStart =>
    have none : microflow.nodes.countP Node.isStart = 0 := by
      apply List.countP_eq_zero.mpr
      intro node stored
      simp [Node.kind_of_isParameter (parameters node stored)]
    rw [extended_nodes, List.countP_append, none]
    simp [Node.isStart, isStart]
  case entered =>
    intro node stored notStart notParameter
    rcases kinds node stored with rfl | isParameter
    · simp [Node.isStart, isStart] at notStart
    · exact absurd (isParameter.symm.trans notParameter) (by decide)
  case branches =>
    intro node stored isSplit
    rcases kinds node stored with rfl | isParameter
    · simp [Node.isSplit, isStart] at isSplit
    · exact absurd (isSplit.symm.trans (Node.kind_of_isParameter isParameter).2) (by decide)
  case acyclic =>
    rw [noFlow]
    intro id cycle
    obtain ⟨_, arrow, _⟩ := Relation.TransGen.head'_iff.mp cycle
    exact List.not_mem_nil arrow
  case left =>
    intro node stored notEnd notParameter notTail
    rcases kinds node stored with rfl | isParameter
    · exact absurd rfl notTail
    · exact absurd (isParameter.symm.trans notParameter) (by decide)
  case tailPasses =>
    intro tail isTail
    exact ⟨start, by simp, Option.some.inj isTail,
      by simp [Node.isPassing, Node.isSplit, Node.isEnd, Node.isParameter, isStart]⟩
  -- The other rules ask something of stored flows, of which there are none.
  all_goals simp [flowless]

/-! ## Growing on -/

section Growing

variable {promised left : NodeId → Prop} {tail : NodeId} {next? : Option NodeId}
  {nodes : List Node} {flows : List Flow}

/-- A node through which control cannot pass is not the tail. -/
theorem Sketch.ne_tail (sketch : microflow.Sketch promised (some tail)) {node : Node}
    (stored : node ∈ microflow.nodes)
    (stuck : node.isSplit = true ∨ node.isEnd = true ∨ node.isParameter = true) :
    node.id ≠ tail := by
  rintro rfl
  obtain ⟨other, otherStored, same, passes⟩ := sketch.tailPasses node.id rfl
  have equal : other = node := List.inj_on_of_nodup_map sketch.distinct otherStored stored same
  subst equal
  rcases stuck with isSplit | isEnd | isParameter
  · simp [Node.isPassing, isSplit] at passes
  · simp [Node.isPassing, isEnd] at passes
  · simp [Node.isPassing, isParameter] at passes

/-- No new flow enters an old node. -/
theorem Continues.destination_ne (continues : microflow.Continues tail nodes flows next?)
    {node : Node} (stored : node ∈ microflow.nodes) {flow : Flow} (added : flow ∈ flows) :
    flow.destination ≠ node.id := by
  obtain ⟨new, isNew, same⟩ := continues.destinations flow added
  exact fun enters => continues.fresh new isNew ⟨node, stored, (same.trans enters).symm⟩

/-- No new flow leaves an old node other than the tail. -/
theorem Continues.origin_ne (continues : microflow.Continues tail nodes flows next?)
    {node : Node} (stored : node ∈ microflow.nodes) (notTail : node.id ≠ tail) {flow : Flow}
    (added : flow ∈ flows) : flow.origin ≠ node.id := by
  intro leaves
  rcases continues.origins flow added with fromTail | ⟨new, isNew, same⟩
  · exact notTail (leaves.symm.trans fromTail)
  · exact continues.fresh new isNew ⟨node, stored, (same.trans leaves).symm⟩

variable (sketch : microflow.Sketch promised (some tail))
    (continues : microflow.Continues tail nodes flows next?)
include sketch continues

/-- No old flow leaves a new node. -/
theorem Sketch.origin_ne {node : Node} (isNew : node ∈ nodes) {flow : Flow}
    (stored : flow ∈ microflow.flows) : flow.origin ≠ node.id :=
  fun leaves => continues.fresh node isNew (leaves ▸ sketch.origins flow stored)

/-- The new flows close no cycle, because each enters a node that nothing before it leaves. -/
theorem Sketch.acyclic_extended :
    Digraph.Acyclic ((microflow.extended nodes flows).flows.map fun flow =>
      (flow.origin, flow.destination)) := by
  rw [extended_flows, List.map_append]
  apply sketch.acyclic.append
  · intro arrow added
    obtain ⟨flow, isNew, rfl⟩ := List.mem_map.mp added
    exact continues.loopless flow isNew
  · intro arrow added old stored
    obtain ⟨flow, isNew, rfl⟩ := List.mem_map.mp added
    obtain ⟨before, isOld, rfl⟩ := List.mem_map.mp stored
    obtain ⟨node, isNode, same⟩ := continues.destinations flow isNew
    exact same ▸ sketch.origin_ne continues isNode isOld
  · rw [List.pairwise_map]
    exact continues.ordered

/-- The branches of an old split still meet where they met, and those of a new one meet at a new
merge. -/
theorem Sketch.branches_extended {node : Node}
    (stored : node ∈ (microflow.extended nodes flows).nodes) (isSplit : node.isSplit = true) :
    BranchesMeet (microflow.nodes ++ nodes) (microflow.flows ++ flows) node.id := by
  rcases List.mem_append.mp stored with old | isNew
  · refine (sketch.branches node old isSplit).mono (List.subset_append_left ..)
      (List.subset_append_left ..) ?_
    rw [List.filter_append, List.append_right_eq_self, List.filter_eq_nil_iff]
    intro flow added leaves
    exact continues.origin_ne old (sketch.ne_tail old (Or.inl isSplit)) added
      (by simpa using leaves)
  · refine BranchesMeet.mono (continues.branches node isNew isSplit) (List.subset_append_right ..)
      (List.subset_append_right ..) ?_
    rw [List.filter_append, List.append_left_eq_self, List.filter_eq_nil_iff]
    intro flow isOld leaves
    exact sketch.origin_ne continues isNew isOld (by simpa using leaves)

/-- Every node but the next tail has its way out; the tail got it from the new flows. -/
theorem Sketch.left_extended {node : Node}
    (stored : node ∈ (microflow.extended nodes flows).nodes) (notEnd : node.isEnd = false)
    (notParameter : node.isParameter = false) (notNext : next? ≠ some node.id) :
    ∃ flow ∈ microflow.flows ++ flows, flow.origin = node.id := by
  rcases List.mem_append.mp stored with old | isNew
  · by_cases isTail : node.id = tail
    · obtain ⟨flow, added, leaves⟩ := continues.tailLeft
      exact ⟨flow, List.mem_append_right _ added, leaves.trans isTail.symm⟩
    · have notOpen : some tail ≠ some node.id := fun same => isTail (Option.some.inj same).symm
      obtain ⟨flow, before, leaves⟩ := sketch.left node old notEnd notParameter notOpen
      exact ⟨flow, List.mem_append_left _ before, leaves⟩
  · obtain ⟨flow, added, leaves⟩ := continues.left node isNew notEnd notNext
    exact ⟨flow, List.mem_append_right _ added, leaves⟩

/-- Whatever goes on from the open tail keeps the rules up to the next tail. Each rule splits
over old and new nodes and flows: at old nodes nothing changes but that the tail is left, and new
ones bring what the rule asks for. A promise is kept when its node is among the new ones. -/
theorem Sketch.extend (kept : ∀ id, promised id → (∃ node ∈ nodes, node.id = id) ∨ left id) :
    (microflow.extended nodes flows).Sketch left next? := by
  constructor
  case distinct => exact distinct_extended sketch.distinct continues.distinct continues.fresh
  case oneStart =>
    have noStart : nodes.countP Node.isStart = 0 :=
      List.countP_eq_zero.mpr fun node isNew => by simp [(continues.inner node isNew).1]
    rw [extended_nodes, List.countP_append, sketch.oneStart, noStart]
  case origins =>
    intro flow stored
    rw [names_extended]
    rcases List.mem_append.mp stored with old | added
    · exact Or.inl (sketch.origins flow old)
    · rcases continues.origins flow added with fromTail | fromNew
      · exact Or.inl (fromTail ▸ sketch.tailNamed)
      · exact Or.inr fromNew
  case destinations =>
    intro flow stored
    rw [names_extended, or_assoc]
    rcases List.mem_append.mp stored with old | added
    · exact (sketch.destinations flow old).imp_right (kept _)
    · exact Or.inr (Or.inl (continues.destinations flow added))
  case startNotEntered =>
    intro node stored isStart flow isFlow
    rcases List.mem_append.mp stored with old | isNew
    · rcases List.mem_append.mp isFlow with before | added
      · exact sketch.startNotEntered node old isStart flow before
      · exact continues.destination_ne old added
    · exact absurd ((continues.inner node isNew).1.symm.trans isStart) Bool.false_ne_true
  case entered =>
    intro node stored notStart notParameter
    rcases List.mem_append.mp stored with old | isNew
    · obtain ⟨flow, before, enters⟩ := sketch.entered node old notStart notParameter
      exact ⟨flow, List.mem_append_left _ before, enters⟩
    · obtain ⟨flow, added, enters⟩ := continues.entered node isNew
      exact ⟨flow, List.mem_append_right _ added, enters⟩
  case branches => exact fun node stored => sketch.branches_extended continues stored
  case endNotLeft =>
    intro node stored isEnd flow isFlow
    rcases List.mem_append.mp stored with old | isNew <;>
      rcases List.mem_append.mp isFlow with before | added
    · exact sketch.endNotLeft node old isEnd flow before
    · exact continues.origin_ne old (sketch.ne_tail old (Or.inr (Or.inl isEnd))) added
    · exact sketch.origin_ne continues isNew before
    · exact continues.endNotLeft node isNew isEnd flow added
  case acyclic => exact sketch.acyclic_extended continues
  case caseFromSplit =>
    intro flow isFlow labeled
    rcases List.mem_append.mp isFlow with before | added
    · obtain ⟨node, old, same, isSplit⟩ := sketch.caseFromSplit flow before labeled
      exact ⟨node, List.mem_append_left _ old, same, isSplit⟩
    · obtain ⟨node, isNew, same, isSplit⟩ := continues.caseFromSplit flow added labeled
      exact ⟨node, List.mem_append_right _ isNew, same, isSplit⟩
  case parameterApart =>
    intro node stored isParameter flow isFlow
    rcases List.mem_append.mp stored with old | isNew
    · rcases List.mem_append.mp isFlow with before | added
      · exact sketch.parameterApart node old isParameter flow before
      · exact ⟨continues.destination_ne old added,
          continues.origin_ne old (sketch.ne_tail old (Or.inr (Or.inr isParameter))) added⟩
    · exact absurd ((continues.inner node isNew).2.symm.trans isParameter) Bool.false_ne_true
  case left =>
    exact fun node stored notEnd notParameter =>
      sketch.left_extended continues stored notEnd notParameter
  case tailPasses =>
    intro next isNext
    obtain ⟨node, isNew, same, passes⟩ := continues.nextPasses next isNext
    exact ⟨node, List.mem_append_right _ isNew, same, passes⟩

omit sketch in
/-- A microflow that grows goes on growing. -/
theorem Growing.extend (growing : microflow.Growing (some tail)) :
    (microflow.extended nodes flows).Growing next? :=
  sketch_iff_growing.mp (growing.sketch.extend continues fun _ impossible => nomatch impossible)

end Growing

/-! ## One node at a time -/

/-- A single node with a plain flow from the tail goes on: an end event closes the
microflow, and a node through which control can pass is the next tail. -/
theorem continues_single {tail : NodeId} {next? : Option NodeId} {node : Node} {flow : Flow}
    (fresh : ¬ microflow.Names node.id) (tailNamed : microflow.Names tail)
    (origin : flow.origin = tail) (destination : flow.destination = node.id)
    (plain : flow.label = none)
    (notStart : node.isStart = false)
    (next : node.isEnd = true ∧ next? = none ∨ node.isPassing = true ∧ next? = some node.id) :
    microflow.Continues tail [node] [flow] next? := by
  have apart : tail ≠ node.id := fun same => fresh (same ▸ tailNamed)
  have kinds : node.isSplit = false ∧ node.isParameter = false := by
    rcases next with ⟨isEnd, _⟩ | ⟨passes, _⟩
    · exact Node.kind_of_isEnd isEnd
    · simp only [Node.isPassing, Bool.and_eq_true, Bool.not_eq_true'] at passes
      exact ⟨passes.1.1, passes.2⟩
  constructor
  case left =>
    intro other isNew notEnd notNext
    obtain rfl := List.mem_singleton.mp isNew
    rcases next with ⟨isEnd, _⟩ | ⟨_, isNext⟩
    · exact absurd (isEnd.symm.trans notEnd) (by decide)
    · exact absurd isNext notNext
  case nextPasses =>
    intro tail' isNext
    rcases next with ⟨_, isNone⟩ | ⟨passes, isSome⟩
    · exact absurd (isNone.symm.trans isNext) (by simp)
    · exact ⟨node, List.mem_singleton_self _, Option.some.inj (isSome.symm.trans isNext), passes⟩
  all_goals simp_all

end Microflow

end FlowModel
