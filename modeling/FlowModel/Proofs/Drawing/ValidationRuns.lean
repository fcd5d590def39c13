import FlowModel.Proofs.Drawing.OpenTail
import FlowModel.Proofs.Drawing.ValidationPlan
import FlowModel.Proofs.Microflow.Runs

/-!
# What validation microflows do

Whatever case is chosen at each split, a validation microflow has one run. It visits the
diamonds in order: a diamond whose split is chosen `true` is passed straight, in the others
the outcome is cleared and a message is shown. So the messages shown are those of the failed
checks, and the outcome is `true` exactly when no check failed.
-/

namespace FlowModel

open Draft Microflow

/-! ## The flows of one diamond -/

section Flows

variable {tail id : NodeId} (apart : ∀ k, tail ≠ id + k)
include apart

/-- From the tail one flow leads into the diamond. -/
theorem diamondFlows_from_tail :
    ((diamondFlows tail id).filter fun flow => flow.origin == tail) =
      [.ofLink tail id .straight] := by
  have apartFirst : id ≠ tail := (apart 0).symm
  have apartLater : ∀ k, id + k ≠ tail := fun k => (apart k).symm
  simp [diamondFlows, Flow.ofLink, apartFirst, apartLater]

/-- From the split there is one flow for each case: `false` into the branch, `true` past it. -/
theorem diamondFlows_from_split :
    ((diamondFlows tail id).filter fun flow => flow.origin == id) =
      [.ofLink id (id + 1) ((Link.between .bottom .top).labeled (caseLabel false)),
        .ofLink id (id + 3) (Link.straight.labeled (caseLabel true))] := by
  have apartFirst : tail ≠ id := apart 0
  simp [diamondFlows, Flow.ofLink, apartFirst]

/-- The branch goes on from clearing the outcome to the message. -/
theorem diamondFlows_from_invalidation :
    ((diamondFlows tail id).filter fun flow => flow.origin == id + 1) =
      [.ofLink (id + 1) (id + 2) .straight] := by
  simp [diamondFlows, Flow.ofLink, apart]

/-- The branch comes back to the merge. -/
theorem diamondFlows_from_feedback :
    ((diamondFlows tail id).filter fun flow => flow.origin == id + 2) =
      [.ofLink (id + 2) (id + 3) (.between .top .bottom)] := by
  simp [diamondFlows, Flow.ofLink, apart]

/-- Nothing leaves the merge as yet, so it is an open tail. -/
theorem diamondFlows_from_merge :
    ((diamondFlows tail id).filter fun flow => flow.origin == id + 3) = [] := by
  simp [diamondFlows, Flow.ofLink, apart]

end Flows

/-! ## The run through one diamond -/

/-- The nodes of the diamond of an attribute that a run visits: all of them, or only the
split and the merge. -/
def checkWalk (choice : Choice) (entity : String) (settings : ValidationSettings) (id : NodeId)
    (checked : Attribute) : List Node :=
  (checkNodes entity settings id checked).filter fun node =>
    !choice id || node.isSplit || node.isMerge

/-- A check that is passed is walked straight from its split to its merge. -/
theorem checkWalk_of_true {choice : Choice} {id : NodeId} (chosen : choice id = true)
    (entity : String) (settings : ValidationSettings) (checked : Attribute) :
    checkWalk choice entity settings id checked =
      [checkSplit entity id checked, checkMerge id] := by
  rw [checkWalk, checkNodes_eq, chosen]
  rfl

/-- A check that fails is walked through both activities of the branch. -/
theorem checkWalk_of_false {choice : Choice} {id : NodeId} (chosen : choice id = false)
    (entity : String) (settings : ValidationSettings) (checked : Attribute) :
    checkWalk choice entity settings id checked =
      [checkSplit entity id checked, checkInvalidation settings id,
        checkFeedback entity settings id checked, checkMerge id] := by
  rw [checkWalk, checkNodes_eq, chosen]
  rfl

/-- Whatever is chosen, a walk through a diamond ends at its merge. -/
theorem getLast?_checkWalk (choice : Choice) (entity : String) (settings : ValidationSettings)
    (id : NodeId) (checked : Attribute) :
    (checkWalk choice entity settings id checked).getLast? = some (checkMerge id) := by
  cases chosen : choice id with
  | true =>
    rw [checkWalk_of_true chosen]
    rfl
  | false =>
    rw [checkWalk_of_false chosen]
    rfl

/-- The nodes of the diamonds of attributes that a run visits. -/
def chainWalk (choice : Choice) (entity : String) (settings : ValidationSettings) :
    NodeId → List Attribute → List Node
  | _, [] => []
  | id, checked :: later =>
    checkWalk choice entity settings id checked ++ chainWalk choice entity settings (id + 4) later

/-- The microflow with the diamond of an attribute behind a tail. -/
abbrev withCheck (microflow : Microflow) (entity : String) (settings : ValidationSettings)
    (tail next : NodeId) (checked : Attribute) : Microflow :=
  microflow.extended (checkNodes entity settings next checked) (diamondFlows tail next)

/-- A microflow under construction, the nodes that a run visits up to its open tail, and the
next id. -/
structure RunsTo (microflow : Microflow) (choice : Choice) (walk : List Node) (tail next : NodeId) :
    Prop extends microflow.OpenAt (some tail) next where
  isRun : microflow.IsRun choice walk
  ends : ∀ last ∈ walk.getLast?, last.id = tail

namespace RunsTo

variable {microflow : Microflow} {choice : Choice} {walk : List Node} {tail next : NodeId}

/-- A run goes on to a single node behind the tail. -/
theorem isRun_single (runsTo : RunsTo microflow choice walk tail next) {node : Node}
    {next? : Option NodeId}
    (continues : microflow.Continues tail [node] [.ofLink tail node.id .straight] next?) :
    (microflow.extended [node] [.ofLink tail node.id .straight]).IsRun choice (walk ++ [node]) := by
  have apart : tail ≠ node.id :=
    fun same => continues.fresh node (by simp) (same ▸ runsTo.growing.tailNamed)
  apply continues.isRun_append runsTo.growing runsTo.isRun runsTo.ends (by simp)
  · intro last atTail notSplit notLeft
    refine List.isChain_pair.mpr ⟨.ofLink tail node.id .straight, ?_, by simp, rfl⟩
    rw [exits, if_neg (by simp [notSplit]), flowsFrom_extended, atTail, notLeft]
    simp [Flow.ofLink]
  · intro last isLast
    obtain rfl : node = last := Option.some.inj isLast
    rw [continues.flowsFrom_new runsTo.growing (by simp)]
    simp [Flow.ofLink, apart]

/-- A run begins at a start event behind parameters. -/
theorem start (prepared : microflow.Prepared next) (position : Position) :
    RunsTo (microflow.extended [nodeAt next position .startEvent] []) choice
      [nodeAt next position .startEvent] next
      (next + 1) where
  toOpenAt := prepared.start position
  isRun := by
    constructor
    case starts => exact ⟨_, List.mem_append_right _ (List.mem_singleton_self _), rfl, rfl⟩
    case steps => exact List.isChain_singleton _
    case stops => simp [flowsFrom, prepared.flowless]
  ends := by simp

/-- An activity behind the tail is the next tail of the run. -/
theorem perform (runsTo : RunsTo microflow choice walk tail next) (position : Position)
    (action : Action) :
    RunsTo (microflow.extended [nodeAt next position (.perform action)]
      [.ofLink tail next .straight]) choice
      (walk ++ [nodeAt next position (.perform action)]) next (next + 1) where
  toOpenAt := runsTo.toOpenAt.perform position action
  isRun := runsTo.isRun_single (runsTo.continues_perform position action)
  ends := by simp

section Check

variable (runsTo : RunsTo microflow choice walk tail next) (entity : String)
    (settings : ValidationSettings)
  (checked : Attribute)
include runsTo

/-- The nodes of a new diamond have no flows but those of the diamond, since their ids were not in
use. -/
theorem flowsFrom_check : ∀ node ∈ checkNodes entity settings next checked,
    (withCheck microflow entity settings tail next checked).flowsFrom node.id =
      (diamondFlows tail next).filter fun flow => flow.origin == node.id :=
  fun _ isNew => (runsTo.continues_check _ _ _ _).flowsFrom_new runsTo.growing isNew

/-- Control goes from the tail to the split. -/
theorem stepsTo_checkSplit {last : Node} (atTail : last.id = tail) (notSplit : last.isSplit = false)
    (notLeft : microflow.flowsFrom tail = []) :
    (withCheck microflow entity settings tail next checked).StepsTo choice last
      (checkSplit entity next checked) := by
  refine ⟨.ofLink tail next .straight, ?_, List.mem_append_right _ (by simp [checkNodes_eq]), rfl⟩
  rw [exits, if_neg (by simp [notSplit]), flowsFrom_extended, atTail, notLeft]
  exact diamondFlows_from_tail runsTo.apart

/-- The flow by which control leaves the split is the one with the chosen case. -/
theorem exits_checkSplit :
    (withCheck microflow entity settings tail next checked).exits choice
      (checkSplit entity next checked) =
      if choice next then [.ofLink next (next + 3) (Link.straight.labeled (caseLabel true))]
      else [.ofLink next (next + 1) ((Link.between .bottom .top).labeled (caseLabel false))] := by
  have isNew : checkSplit entity next checked ∈ checkNodes entity settings next checked := by
    simp [checkNodes_eq]
  have leaves := diamondFlows_from_split runsTo.apart
  have splits : (checkSplit entity next checked).isSplit = true := rfl
  rw [exits, if_pos splits, runsTo.flowsFrom_check entity settings checked _ isNew]
  simp only [checkSplit, nodeAt_id, leaves]
  cases choice next with
  | true => rfl
  | false => rfl

/-- Behind the cleared outcome the message is the only way on. -/
theorem stepsTo_checkFeedback :
    (withCheck microflow entity settings tail next checked).StepsTo choice
      (checkInvalidation settings next)
      (checkFeedback entity settings next checked) := by
  have isNew : checkInvalidation settings next ∈ checkNodes entity settings next checked := by
    simp [checkNodes_eq]
  have leaves := runsTo.flowsFrom_check entity settings checked _ isNew
  exact ⟨_, leaves.trans (diamondFlows_from_invalidation runsTo.apart),
    List.mem_append_right _ (by simp [checkNodes_eq]), rfl⟩

/-- Behind the message the merge is the only way on. -/
theorem stepsTo_checkMerge :
    (withCheck microflow entity settings tail next checked).StepsTo choice
      (checkFeedback entity settings next checked) (checkMerge next) := by
  have isNew :
      checkFeedback entity settings next checked ∈ checkNodes entity settings next checked := by
    simp [checkNodes_eq]
  have leaves := runsTo.flowsFrom_check entity settings checked _ isNew
  exact ⟨_, leaves.trans (diamondFlows_from_feedback runsTo.apart),
    List.mem_append_right _ (by simp [checkNodes_eq]), rfl⟩

/-- Steps within a diamond: the chosen case decides whether control enters the branch. -/
theorem isChain_checkWalk {last : Node} (atTail : last.id = tail) (notSplit : last.isSplit = false)
    (notLeft : microflow.flowsFrom tail = []) :
    (last :: checkWalk choice entity settings next checked).IsChain
      ((withCheck microflow entity settings tail next checked).StepsTo choice) := by
  have toSplit := runsTo.stepsTo_checkSplit entity settings checked atTail notSplit notLeft
  have leaves := runsTo.exits_checkSplit entity settings checked
  cases chosen : choice next with
  | true =>
    have across : (withCheck microflow entity settings tail next checked).StepsTo choice
        (checkSplit entity next checked) (checkMerge next) :=
      ⟨_, leaves.trans (if_pos chosen), List.mem_append_right _ (by simp [checkNodes_eq]), rfl⟩
    rw [checkWalk_of_true chosen]
    simp [toSplit, across]
  | false =>
    have down : (withCheck microflow entity settings tail next checked).StepsTo choice
        (checkSplit entity next checked) (checkInvalidation settings next) :=
      ⟨_, leaves.trans (if_neg (by simp [chosen])),
        List.mem_append_right _ (by simp [checkNodes_eq]), rfl⟩
    have toFeedback := runsTo.stepsTo_checkFeedback entity settings checked
    have toMerge := runsTo.stepsTo_checkMerge entity settings checked
    rw [checkWalk_of_false chosen]
    simp [toSplit, down, toFeedback, toMerge]

/-- The run goes on through the diamond of an attribute to its merge. -/
theorem check :
    RunsTo (withCheck microflow entity settings tail next checked) choice
      (walk ++ checkWalk choice entity settings next checked) (next + 3) (next + 4) := by
  have isMerge : checkMerge next ∈ checkNodes entity settings next checked := by
    simp [checkNodes_eq]
  have lastMerge := getLast?_checkWalk choice entity settings next checked
  have goesOn : checkWalk choice entity settings next checked ≠ [] := by
    intro nothing
    rw [nothing] at lastMerge
    exact nomatch lastMerge
  constructor
  case toOpenAt => exact runsTo.toOpenAt.check _ _ settings _
  case isRun =>
    apply (runsTo.continues_check _ _ settings _).isRun_append runsTo.growing runsTo.isRun
      runsTo.ends goesOn
    · intro last atTail notSplit notLeft
      exact runsTo.isChain_checkWalk entity settings checked atTail notSplit notLeft
    · intro last isLast
      obtain rfl : checkMerge next = last := Option.some.inj (lastMerge.symm.trans isLast)
      have leaves := runsTo.flowsFrom_check entity settings checked _ isMerge
      exact leaves.trans (diamondFlows_from_merge runsTo.apart)
  case ends =>
    intro last isLast
    rw [List.getLast?_append_of_ne_nil _ goesOn, lastMerge] at isLast
    obtain rfl : checkMerge next = last := Option.some.inj isLast
    rfl

end Check

/-- The run goes on through the diamonds of attributes one after another. -/
theorem chain {entity : String} {settings : ValidationSettings} (attributes : List Attribute) :
    ∀ {microflow : Microflow} {walk : List Node} {tail next : NodeId},
      RunsTo microflow choice walk tail next →
      RunsTo (microflow.extended (chainNodes entity settings next attributes)
        (chainFlows tail next attributes)) choice
        (walk ++ chainWalk choice entity settings next attributes) (chainTail tail next attributes)
        (next + 4 * attributes.length) := by
  induction attributes with
  | nil =>
    intro microflow walk tail next runsTo
    simpa [chainNodes, chainFlows, chainWalk, chainTail] using runsTo
  | cons checked later inductionHypothesis =>
    intro microflow walk tail next runsTo
    have reached := inductionHypothesis (runsTo.check entity settings checked)
    rw [extended_extended, List.append_assoc] at reached
    rw [List.length_cons, Nat.mul_succ, Nat.add_comm (4 * _) 4, ← Nat.add_assoc]
    exact reached

end RunsTo

/-! ## The run of a validation microflow -/

section Plan

variable (entity : Entity) (moduleName : String) (settings : ValidationSettings) (choice : Choice)

/-- The end event of the validation microflow of an entity. -/
def finalNode : Node :=
  nodeAt entity.finalId ⟨tailX entity.finalId + 100, 100⟩
    (.endEvent ("$" ++ settings.validVariable))

/-- A validation microflow has a fixed beginning, the chain of its checks, and an end event. -/
theorem validationPlan_nodes : (validationPlan entity moduleName settings).nodes =
    validationHead entity.name moduleName settings ++
      chainNodes (QualifiedName.qualified moduleName entity.name) settings 3
        (checkedAttributes entity.attributes) ++
      [finalNode entity settings] :=
  rfl

/-- The nodes that the run of a validation microflow visits: the head without the parameter,
the diamonds, and the end event. -/
def validationWalk : List Node :=
  (validationHead entity.name moduleName settings).tail ++
    chainWalk choice (QualifiedName.qualified moduleName entity.name) settings 3
      (checkedAttributes entity.attributes) ++ [finalNode entity settings]

/-- The fixed beginning has no split, so it has the same run for all choices. -/
theorem runsTo_validationDraft :
    RunsTo (validationDraft entity.name moduleName settings).microflow choice
      (validationHead entity.name moduleName settings).tail 2 3 := by
  have prepared :=
    (prepared_empty (settings.microflowName entity.name) .boolean).parameter .origin entity.name
    (.object (QualifiedName.qualified moduleName entity.name))
  exact (RunsTo.start prepared ⟨0, 100⟩).perform ⟨100, 100⟩
    (.createVariable settings.validVariable .boolean "true")

/-- Without its end event a validation microflow runs to its last merge, or to the variable of the
outcome if there is no check. -/
theorem runsTo_openValidationPlan :
    RunsTo (openValidationPlan entity moduleName settings) choice
      ((validationHead entity.name moduleName settings).tail ++
        chainWalk choice (QualifiedName.qualified moduleName entity.name) settings 3
          (checkedAttributes entity.attributes))
      (chainTail 2 3 (checkedAttributes entity.attributes)) entity.finalId :=
  RunsTo.chain _ (runsTo_validationDraft entity moduleName settings choice)

/-- A validation microflow goes on from its last check to its end. -/
theorem openAt_validationPlan :
    (validationPlan entity moduleName settings).OpenAt none (entity.finalId + 1) := by
  rw [validationPlan_eq]
  exact (runsTo_openValidationPlan entity moduleName settings fun _ => true).toOpenAt.close _ _

/-- A validation microflow breaks no rule. -/
theorem violations_validationPlan : (validationPlan entity moduleName settings).violations = [] :=
  (openAt_validationPlan entity moduleName settings).violations_eq_nil

/-- For every choice a validation microflow has a run from its start to its end, namely the walk
through its diamonds. -/
theorem isRun_validationPlan :
    (validationPlan entity moduleName settings).IsRun choice
      (validationWalk entity moduleName settings choice) := by
  have runsTo := runsTo_openValidationPlan entity moduleName settings choice
  rw [validationPlan_eq]
  exact runsTo.isRun_single (runsTo.continues_close _ _)

end Plan

end FlowModel
