import FlowModel.Proofs.Microflow.Rules

/-!
# Regular microflows

A microflow is regular when it keeps the structural rules. One node may be excused from the
rule that asks for a way out: the open tail, from which a microflow under construction goes
on. Without an open tail, regular microflows are exactly those without violations
(`violations_eq_nil_iff`); ids may be repeated.
-/

namespace FlowModel.Microflow

variable {microflow : Microflow} {tail? : Option NodeId}

/-- The structural rules, kept by all nodes and flows; only an open tail may lack a way out. -/
structure Regular (microflow : Microflow) (tail? : Option NodeId) : Prop where
  oneStart : microflow.nodes.countP Node.isStart = 1
  startNotEntered : ∀ node ∈ microflow.nodes, node.isStart = true → ¬ microflow.IsEntered node.id
  resolved : ∀ flow ∈ microflow.flows, microflow.Names flow.origin ∧
    microflow.Names flow.destination
  entered : ∀ node ∈ microflow.nodes, node.isStart = false → node.isParameter = false →
    microflow.IsEntered node.id
  bothCases : ∀ node ∈ microflow.nodes, node.isSplit = true → microflow.HasBothCases node.id
  reconverges : ∀ node ∈ microflow.nodes, node.isSplit = true → ¬ microflow.Separates node.id
  endNotLeft : ∀ node ∈ microflow.nodes, node.isEnd = true → ¬ microflow.IsLeft node.id
  acyclic : ∀ id, ¬ Relation.TransGen microflow.Leads id id
  caseFromSplit : ∀ flow ∈ microflow.flows, flow.label ≠ none →
    (microflow.node? flow.origin).any Node.isSplit = true
  parameterApart : ∀ node ∈ microflow.nodes, node.isParameter = true →
    ¬ microflow.IsEntered node.id ∧ ¬ microflow.IsLeft node.id
  left : ∀ node ∈ microflow.nodes, node.isEnd = false → node.isParameter = false →
    tail? ≠ some node.id → microflow.IsLeft node.id

/-- Nothing is found at nodes when none of them satisfies the condition. -/
theorem foundAt_eq_nil {breaks : Node → Prop} {found : NodeId → Violation} :
    microflow.foundAt breaks found = [] ↔ ∀ node ∈ microflow.nodes, ¬ breaks node := by
  simp [foundAt]

/-- Nothing is found on flows when none of them satisfies the condition. -/
theorem foundOn_eq_nil {breaks : Flow → Prop} {found : NodeId → NodeId → Violation} :
    microflow.foundOn breaks found = [] ↔ ∀ flow ∈ microflow.flows, ¬ breaks flow := by
  simp [foundOn]

/-- There are no stray cases if the node that is found by the origin of each flow with a case is a
split. Of several nodes with one id the first is found. -/
theorem strayCaseViolations_eq_nil :
    microflow.strayCaseViolations = [] ↔
      ∀ flow ∈ microflow.flows, flow.label ≠ none →
        (microflow.node? flow.origin).any Node.isSplit = true := by
  simp [strayCaseViolations, Option.isSome_iff_ne_none]

/-- A microflow without violations is one that keeps all rules. Ids may be repeated. The list of
violations is empty when the part of each rule is, and each part says what it found. -/
theorem violations_eq_nil_iff : microflow.violations = [] ↔ microflow.Regular none := by
  classical
  have faithful := faithful_wiringView microflow
  simp only [violations, violationsWith, List.append_eq_nil_iff,
    enteredStartViolations_eq faithful, danglingFlowViolations_eq faithful,
    unenteredViolations_eq faithful, splitCaseViolations_eq faithful,
    separateBranchViolations_eq faithful, leftEndViolations_eq faithful,
    cycleViolations_eq faithful, wiredParameterViolations_eq faithful,
    deadEndViolations_eq faithful, foundAt_eq_nil, foundOn_eq_nil, strayCaseViolations_eq_nil]
  constructor
  · rintro ⟨⟨⟨⟨⟨⟨⟨⟨⟨⟨starts, enteredStart⟩, dangling⟩, unentered⟩, cases⟩, separate⟩, ends⟩,
      cycles⟩, stray⟩, parameters⟩, dead⟩
    constructor
    case oneStart =>
      by_contra other
      simp [startCountViolations, other] at starts
    case startNotEntered =>
      exact fun node stored isStart isEntered => enteredStart node stored ⟨isStart, isEntered⟩
    case resolved => exact fun flow stored => not_not.mp (dangling flow stored)
    case entered =>
      intro node stored notStart notParameter
      by_contra missing
      exact unentered node stored ⟨notStart, notParameter, missing⟩
    case bothCases =>
      intro node stored isSplit
      by_contra missing
      exact cases node stored ⟨isSplit, missing⟩
    case reconverges => exact fun node stored isSplit apart => separate node stored ⟨isSplit, apart⟩
    case endNotLeft => exact fun node stored isEnd isLeft => ends node stored ⟨isEnd, isLeft⟩
    case acyclic =>
      -- One violation stands for all cycles, so it is there as soon as one id is on a cycle.
      intro id cycle
      rw [if_pos ⟨id, cycle⟩] at cycles
      exact List.cons_ne_nil _ _ cycles
    case caseFromSplit => exact stray
    case parameterApart =>
      intro node stored isParameter
      have apart := parameters node stored
      exact ⟨fun isEntered => apart ⟨isParameter, Or.inl isEntered⟩, fun isLeft =>
        apart ⟨isParameter, Or.inr isLeft⟩⟩
    case left =>
      intro node stored notEnd notParameter _
      by_contra missing
      exact dead node stored ⟨notEnd, notParameter, missing⟩
  · intro regular
    refine ⟨⟨⟨⟨⟨⟨⟨⟨⟨⟨?_, ?_⟩, ?_⟩, ?_⟩, ?_⟩, ?_⟩, ?_⟩, ?_⟩, ?_⟩, ?_⟩, ?_⟩
    · simp [startCountViolations, regular.oneStart]
    · exact fun node stored broken => regular.startNotEntered node stored broken.1 broken.2
    · exact fun flow stored broken => broken (regular.resolved flow stored)
    · exact fun node stored broken => broken.2.2 (regular.entered node stored broken.1 broken.2.1)
    · exact fun node stored broken => broken.2 (regular.bothCases node stored broken.1)
    · exact fun node stored broken => regular.reconverges node stored broken.1 broken.2
    · exact fun node stored broken => regular.endNotLeft node stored broken.1 broken.2
    · apply if_neg
      rintro ⟨id, cycle⟩
      exact regular.acyclic id cycle
    · exact regular.caseFromSplit
    · rintro node stored ⟨isParameter, isEntered | isLeft⟩
      · exact (regular.parameterApart node stored isParameter).1 isEntered
      · exact (regular.parameterApart node stored isParameter).2 isLeft
    · exact fun node stored broken =>
        broken.2.2 (regular.left node stored broken.1 broken.2.1 (Option.some_ne_none _).symm)

end FlowModel.Microflow
