import Mathlib
import FlowModel.Microflow.Violation
import FlowModel.Proofs.Microflow.FlowRelation

/-!
# What the structural rules ask for

The rules are stated over the stored nodes and flows: what enters or leaves an id are the
resolved flows there, walks are closures of the relation between ids. `breaches` lists what
breaks a rule so stated, rule after rule and within a rule in stored order. Main statement:
a microflow with pairwise distinct ids is told exactly its breaches
(`violations_eq_breaches`). The rules may ask any view of the microflow that is faithful to its
flows, and find the same whichever they ask (`violationsWith_congr`).

Ids matter for one rule only. A case belongs on flows that leave a split, and the flow names
its origin by id.
-/

namespace FlowModel.Microflow

variable (microflow : Microflow)

/-- Exactly two resolved flows leave the id: one with the case `true` and one with the case
`false`. -/
def HasBothCases (id : NodeId) : Prop :=
  ∃ whenTrue whenFalse, whenTrue.label = some (caseLabel true) ∧
    whenFalse.label = some (caseLabel false) ∧
    (microflow.leaving id).Perm [whenTrue, whenFalse]

/-- Some merge can be reached from both ids. -/
def MeetsAtMerge (one other : NodeId) : Prop :=
  ∃ merge ∈ microflow.nodes, merge.isMerge = true ∧ microflow.Reaches one merge.id ∧
    microflow.Reaches other merge.id

/-- The newest flows of the two cases that leave the id are there, but no merge can be
reached from both. -/
def Separates (id : NodeId) : Prop :=
  ∃ whenTrue whenFalse, microflow.IsNewest id (caseLabel true) whenTrue ∧
    microflow.IsNewest id (caseLabel false) whenFalse ∧
    ¬ microflow.MeetsAtMerge whenTrue.destination whenFalse.destination

open Classical in
/-- What is found at the nodes that satisfy a condition, in stored order. -/
noncomputable def foundAt (breaks : Node → Prop) (found : NodeId → Violation) : List Violation :=
  (microflow.nodes.filter fun node => breaks node).map fun node => found node.id

open Classical in
/-- What is found on the flows that satisfy a condition, in stored order. -/
noncomputable def foundOn (breaks : Flow → Prop) (found : NodeId → NodeId → Violation) :
    List Violation :=
  (microflow.flows.filter fun flow => breaks flow).map fun flow =>
    found flow.origin flow.destination

open Classical in
/-- All breaches of the eleven rules, rule after rule. -/
noncomputable def breaches : List Violation :=
  (if microflow.nodes.countP Node.isStart = 1 then []
    else [.startCount (microflow.nodes.countP Node.isStart)]) ++
  microflow.foundAt (fun node => node.isStart = true ∧ microflow.IsEntered node.id) .enteredStart ++
  microflow.foundOn (fun flow => ¬ (microflow.Names flow.origin ∧ microflow.Names flow.destination))
    .danglingFlow ++
  microflow.foundAt
    (fun node => node.isStart = false ∧ node.isParameter = false ∧ ¬ microflow.IsEntered node.id)
      .unentered ++
  microflow.foundAt (fun node => node.isSplit = true ∧ ¬ microflow.HasBothCases node.id)
    (fun id => .splitCases id ((microflow.leaving id).reverse.map (·.label))) ++
  microflow.foundAt (fun node => node.isSplit = true ∧ microflow.Separates node.id)
    .separateBranches ++
  microflow.foundAt (fun node => node.isEnd = true ∧ microflow.IsLeft node.id) .leftEnd ++
  (if ∃ id, Relation.TransGen microflow.Leads id id then [.cycle] else []) ++
  microflow.foundOn (fun flow => flow.label ≠ none ∧
    ¬ ∃ node ∈ microflow.nodes, node.id = flow.origin ∧ node.isSplit = true) .strayCase ++
  microflow.foundAt
    (fun node => node.isParameter = true ∧ (microflow.IsEntered node.id ∨ microflow.IsLeft node.id))
    .wiredParameter ++
  microflow.foundAt
    (fun node => node.isEnd = false ∧ node.isParameter = false ∧ ¬ microflow.IsLeft node.id)
    .deadEnd

variable {microflow}

/-- Conditions that agree find the same. -/
theorem foundAt_eq {breaks : Node → Prop} {found : NodeId → Violation} {check : Node → Bool}
    (agree : ∀ node, check node = true ↔ breaks node) :
    (microflow.nodes.filter check).map (fun node => found node.id) =
      microflow.foundAt breaks found := by
  classical
  have same : check = fun node => decide (breaks node) := by
    funext node
    rw [Bool.eq_iff_iff, agree, decide_eq_true_iff]
  rw [foundAt, same]

/-- Conditions on flows that agree find the same. -/
theorem foundOn_eq {breaks : Flow → Prop} {found : NodeId → NodeId → Violation}
    {check : Flow → Bool} (agree : ∀ flow, check flow = true ↔ breaks flow) :
    (microflow.flows.filter check).map (fun flow => found flow.origin flow.destination) =
      microflow.foundOn breaks found := by
  classical
  have same : check = fun flow => decide (breaks flow) := by
    funext flow
    rw [Bool.eq_iff_iff, agree, decide_eq_true_iff]
  rw [foundOn, same]

/-- A list has two members, one for each case, exactly when it is a permutation of two such
members. -/
theorem perm_cases_iff {flows : List Flow} :
    (flows.length = 2 ∧ some (caseLabel true) ∈ flows.map (·.label) ∧
        some (caseLabel false) ∈ flows.map (·.label)) ↔
      ∃ whenTrue whenFalse, whenTrue.label = some (caseLabel true) ∧
        whenFalse.label = some (caseLabel false) ∧ flows.Perm [whenTrue, whenFalse] := by
  constructor
  · rintro ⟨two, hasTrue, hasFalse⟩
    obtain ⟨first, second, rfl⟩ := List.length_eq_two.mp two
    have different : caseLabel true ≠ caseLabel false := by decide
    simp only [List.map_cons, List.map_nil, List.mem_cons, List.not_mem_nil,
      or_false] at hasTrue hasFalse
    rcases hasTrue with isTrue | isTrue <;> rcases hasFalse with isFalse | isFalse
    · exact absurd (Option.some.inj (isTrue.trans isFalse.symm)) different
    · exact ⟨first, second, isTrue.symm, isFalse.symm, List.Perm.refl _⟩
    · exact ⟨second, first, isTrue.symm, isFalse.symm, List.Perm.swap _ _ _⟩
    · exact absurd (Option.some.inj (isTrue.trans isFalse.symm)) different
  · rintro ⟨whenTrue, whenFalse, isTrue, isFalse, permutation⟩
    have labels := permutation.map (·.label)
    exact ⟨permutation.length_eq, labels.mem_iff.mpr (by simp [isTrue]),
      labels.mem_iff.mpr (by simp [isFalse])⟩

/-- Reports that agree with a condition at every node are those found by the condition. -/
theorem filterMap_eq_foundAt {kind : Node → Bool} {report : Node → Option Violation}
    {breaks : Node → Prop} {found : NodeId → Violation}
    (reports : ∀ node, breaks node → report node = some (found node.id))
    (silent : ∀ node, ¬ breaks node → report node = none) :
    (microflow.nodes.filter kind).filterMap report =
      microflow.foundAt (fun node => kind node = true ∧ breaks node) found := by
  classical
  rw [foundAt]
  induction microflow.nodes with
  | nil => rfl
  | cons node rest inductionHypothesis =>
    by_cases isKind : kind node = true <;> by_cases broken : breaks node
    · simp [isKind, broken, reports node broken, inductionHypothesis]
    · simp [isKind, broken, silent node broken, inductionHypothesis]
    · simp [isKind, inductionHypothesis]
    · simp [isKind, inductionHypothesis]

section Faithful

variable {view : GraphView} (faithful : view.Faithful microflow)
include faithful

/-! ## Rules on degrees -/

/-- Start events that are entered are found in stored order. -/
theorem enteredStartViolations_eq :
    microflow.enteredStartViolations view =
      microflow.foundAt (fun node => node.isStart = true ∧ microflow.IsEntered node.id)
        .enteredStart := by
  apply foundAt_eq
  intro node
  simp [faithful.incomingCount_pos]

/-- Nodes that are not entered are found, but for start events and parameters. -/
theorem unenteredViolations_eq :
    microflow.unenteredViolations view =
      microflow.foundAt
        (fun node => node.isStart = false ∧ node.isParameter = false ∧
          ¬ microflow.IsEntered node.id)
        .unentered := by
  apply foundAt_eq
  intro node
  simp [← faithful.incomingCount_pos, and_assoc]

/-- End events that are left are found in stored order. -/
theorem leftEndViolations_eq :
    microflow.leftEndViolations view =
      microflow.foundAt (fun node => node.isEnd = true ∧ microflow.IsLeft node.id) .leftEnd := by
  apply foundAt_eq
  intro node
  simp [faithful.outgoingCount_pos]

/-- Parameters that are entered or left are found, once each. -/
theorem wiredParameterViolations_eq :
    microflow.wiredParameterViolations view =
      microflow.foundAt
        (fun node => node.isParameter = true ∧
          (microflow.IsEntered node.id ∨ microflow.IsLeft node.id))
        .wiredParameter := by
  apply foundAt_eq
  intro node
  simp only [Bool.and_eq_true, decide_eq_true_eq, ← faithful.incomingCount_pos,
    ← faithful.outgoingCount_pos, Nat.add_pos_iff_pos_or_pos]

/-- Nodes that are not left are found, but for end events and parameters. -/
theorem deadEndViolations_eq :
    microflow.deadEndViolations view =
      microflow.foundAt
        (fun node => node.isEnd = false ∧ node.isParameter = false ∧ ¬ microflow.IsLeft node.id)
          .deadEnd := by
  apply foundAt_eq
  intro node
  simp [← faithful.outgoingCount_pos, and_assoc]

/-! ## Rules on splits -/

/-- The cases of a node are reported with the newest first. -/
theorem casesFound_eq (node : Node) :
    casesFound view node = (microflow.leaving node.id).reverse.map (·.label) := by
  rw [casesFound, faithful.outgoing_eq_leaving, List.map_map]
  rfl

/-- Splits are found that have not one flow for each case, with the labels of the flows that they
have. -/
theorem splitCaseViolations_eq :
    microflow.splitCaseViolations view =
      microflow.foundAt (fun node => node.isSplit = true ∧ ¬ microflow.HasBothCases node.id)
        (fun id => .splitCases id ((microflow.leaving id).reverse.map (·.label))) := by
  have exact : ∀ node : Node,
      ((casesFound view node).length = 2 ∧
        some (caseLabel true) ∈ casesFound view node ∧
        some (caseLabel false) ∈ casesFound view node) ↔
          microflow.HasBothCases node.id := by
    intro node
    rw [casesFound_eq faithful, HasBothCases, ← perm_cases_iff]
    simp
  apply filterMap_eq_foundAt
  · intro node broken
    simp only [(exact node).not.mpr broken, if_false]
    rw [casesFound_eq faithful]
  · intro node kept
    simp only [(exact node).mpr (not_not.mp kept), and_self, if_true]

/-- Some branch target is known exactly when the newest flow of the case leads there. -/
theorem branchTarget?_eq_some {id target : NodeId} {holds : Bool} :
    branchTarget? view id holds = some target ↔
      ∃ flow, microflow.IsNewest id (caseLabel holds) flow ∧ flow.destination = target := by
  simp only [← find?_leaving, branchTarget?, faithful.outgoing_eq_leaving, List.find?_map,
    Option.map_map, Option.map_eq_some_iff]
  rfl

/-- Some merge is found from the ends of two resolved flows exactly if one can be reached from
both. -/
theorem meetAtMerge_iff {one other : Flow} (resolved : microflow.Resolves one)
    (resolvedOther : microflow.Resolves other) :
    microflow.meetAtMerge view one.destination other.destination = true ↔
      microflow.MeetsAtMerge one.destination other.destination := by
  simp [meetAtMerge, MeetsAtMerge, faithful.mem_reachableFrom_destination resolved,
    faithful.mem_reachableFrom_destination resolvedOther, and_assoc]

/-- Splits are found whose branches meet at no merge. Of several flows with one case the newest is
the branch. -/
theorem separateBranchViolations_eq :
    microflow.separateBranchViolations view =
      microflow.foundAt (fun node => node.isSplit = true ∧ microflow.Separates node.id)
        .separateBranches := by
  apply filterMap_eq_foundAt
  · rintro node ⟨whenTrue, whenFalse, newestTrue, newestFalse, apart⟩
    have onTrue := (branchTarget?_eq_some faithful).mpr ⟨whenTrue, newestTrue, rfl⟩
    have onFalse := (branchTarget?_eq_some faithful).mpr ⟨whenFalse, newestFalse, rfl⟩
    have meets := meetAtMerge_iff faithful newestTrue.resolves newestFalse.resolves
    simp only [onTrue, onFalse, meets, apart, if_false]
  · intro node together
    split
    · rename_i onTrue onFalse targetTrue targetFalse
      obtain ⟨whenTrue, newestTrue, rfl⟩ := (branchTarget?_eq_some faithful).mp targetTrue
      obtain ⟨whenFalse, newestFalse, rfl⟩ := (branchTarget?_eq_some faithful).mp targetFalse
      have meets : microflow.MeetsAtMerge whenTrue.destination whenFalse.destination := by
        by_contra apart
        exact together ⟨whenTrue, whenFalse, newestTrue, newestFalse, apart⟩
      simp [(meetAtMerge_iff faithful newestTrue.resolves newestFalse.resolves).mpr meets]
    · rfl

/-! ## Rules on flows and walks -/

/-- Flows are found that end at an id without a node, in stored order. -/
theorem danglingFlowViolations_eq :
    danglingFlowViolations view =
      microflow.foundOn
        (fun flow => ¬ (microflow.Names flow.origin ∧ microflow.Names flow.destination))
        .danglingFlow := by
  rw [danglingFlowViolations, faithful.dangling_eq, List.map_map]
  exact foundOn_eq fun flow => decide_eq_true_iff

open Classical in
/-- However many cycles there are, one is reported. -/
theorem cycleViolations_eq :
    cycleViolations view =
      if ∃ id, Relation.TransGen microflow.Leads id id then [.cycle] else [] := by
  rw [cycleViolations]
  simp only [faithful.isCyclic_iff]

end Faithful

/-- Flows with a case are found that come from no split. The ids must be distinct: of two nodes with
one id, the rule looks at the first only. -/
theorem strayCaseViolations_eq (distinct : (microflow.nodes.map Node.id).Nodup) :
    microflow.strayCaseViolations =
      microflow.foundOn (fun flow => flow.label ≠ none ∧
        ¬ ∃ node ∈ microflow.nodes, node.id = flow.origin ∧ node.isSplit = true) .strayCase := by
  have fromSplit : ∀ id, (microflow.node? id).any Node.isSplit = true ↔
      ∃ node ∈ microflow.nodes, node.id = id ∧ node.isSplit = true := by
    intro id
    simp only [Option.any_eq_true, node?_eq_some_iff distinct, and_assoc]
  apply foundOn_eq
  intro flow
  rw [Bool.and_eq_true, Bool.not_eq_true', ← Bool.not_eq_true, fromSplit, Option.isSome_iff_ne_none]

/-- Whichever faithful view the rules ask, they find the same. Ids may be repeated: what the rule on
cases asks of ids it asks of the stored nodes and not of a view. -/
theorem violationsWith_congr {first second : GraphView} (one : first.Faithful microflow)
    (other : second.Faithful microflow) :
    microflow.violationsWith first = microflow.violationsWith second := by
  classical
  simp only [violationsWith, enteredStartViolations_eq one, enteredStartViolations_eq other,
    danglingFlowViolations_eq one, danglingFlowViolations_eq other, unenteredViolations_eq one,
    unenteredViolations_eq other, splitCaseViolations_eq one, splitCaseViolations_eq other,
    separateBranchViolations_eq one, separateBranchViolations_eq other, leftEndViolations_eq one,
    leftEndViolations_eq other, cycleViolations_eq one, cycleViolations_eq other,
    wiredParameterViolations_eq one, wiredParameterViolations_eq other, deadEndViolations_eq one,
    deadEndViolations_eq other]

/-- The rules find exactly what breaks them in a microflow with pairwise distinct ids, whichever
faithful view they ask. -/
theorem violationsWith_eq_breaches {view : GraphView} (faithful : view.Faithful microflow)
    (distinct : (microflow.nodes.map Node.id).Nodup) :
    microflow.violationsWith view = microflow.breaches := by
  simp only [violationsWith, breaches, enteredStartViolations_eq faithful,
    danglingFlowViolations_eq faithful, unenteredViolations_eq faithful,
    splitCaseViolations_eq faithful, separateBranchViolations_eq faithful,
    leftEndViolations_eq faithful, cycleViolations_eq faithful, strayCaseViolations_eq distinct,
    wiredParameterViolations_eq faithful, deadEndViolations_eq faithful, startCountViolations]

/-- A microflow with pairwise distinct ids is told exactly what breaks the rules. -/
theorem violations_eq_breaches (distinct : (microflow.nodes.map Node.id).Nodup) :
    microflow.violations = microflow.breaches :=
  violationsWith_eq_breaches (faithful_wiringView microflow) distinct

/-- A split with two parallel flows of one case, a loop, a flow into nowhere and a case on a
flow from a merge. -/
def tangled : Microflow :=
  { empty "Tangled" .boolean with
    nodes := [
      ⟨0, .origin, ⟨20, 20⟩, .startEvent⟩,
      ⟨1, .origin, ⟨90, 60⟩, .split "$Flag" "Flag"⟩,
      ⟨2, .origin, ⟨40, 40⟩, .merge⟩,
      ⟨3, .origin, ⟨20, 20⟩, .endEvent "true"⟩]
    flows := [
      ⟨0, 1, .right, .left, none⟩,
      ⟨1, 2, .right, .left, some "true"⟩,
      ⟨1, 2, .bottom, .top, some "true"⟩,
      ⟨2, 1, .top, .top, none⟩,
      ⟨2, 9, .right, .left, none⟩,
      ⟨2, 3, .right, .left, some "true"⟩] }

/-- In the tangled microflow four rules are broken at once, and reported in the order of the rules.
-/
theorem violations_eq_breaches_tangled :
    (tangled.nodes.map Node.id).Nodup ∧ tangled.violations = tangled.breaches ∧
      tangled.breaches =
        [.danglingFlow 2 9, .splitCases 1 [some "true", some "true"], .cycle, .strayCase 2 3] := by
  have distinct : (tangled.nodes.map Node.id).Nodup := by decide
  have same : tangled.violations = tangled.breaches := violations_eq_breaches distinct
  have told : tangled.violations =
      [.danglingFlow 2 9, .splitCases 1 [some "true", some "true"], .cycle, .strayCase 2 3] := by
    cbv
  exact ⟨distinct, same, same ▸ told⟩

end FlowModel.Microflow
