import FlowModel.Proofs.Drawing.ValidationRuns

/-!
# The outcome of a validation

A run of a validation microflow is read as a program: its activities assign the variable of
the outcome and show messages. For every choice of the cases, the messages are those of the
failed checks in declared order, and the value assigned last is `true` exactly when all
checks passed (`validation_outcome`).
-/

namespace FlowModel

open Draft Microflow

/-! ## What activities do -/

/-- The object and the attribute at which an activity shows a message, if it does. -/
def Node.feedback? (node : Node) : Option (String × AttributeRef) :=
  match node.action? with
  | some (.validationFeedback subject target _) => some (subject, target)
  | _ => none

/-- The value that an activity assigns to a variable, if it does. -/
def Node.assigned? (variableName : String) (node : Node) : Option String :=
  match node.action? with
  | some (.createVariable name _ value) => if name = variableName then some value else none
  | some (.changeVariable name value) => if name = variableName then some value else none
  | _ => none

/-! ## The splits of a chain -/

/-- The splits of the diamonds of attributes. -/
def chainSplits (entity : String) : NodeId → List Attribute → List Node
  | _, [] => []
  | id, checked :: later => checkSplit entity id checked :: chainSplits entity (id + 4) later

variable {entity : String} {settings : ValidationSettings}

/-- Each diamond has one split, the first of its nodes. -/
theorem filter_isSplit_chainNodes (attributes : List Attribute) : ∀ id : NodeId,
    (chainNodes entity settings id attributes).filter Node.isSplit =
      chainSplits entity id attributes := by
  induction attributes with
  | nil => exact fun _ => rfl
  | cons checked later inductionHypothesis =>
    intro id
    rw [chainNodes, List.filter_append, inductionHypothesis, checkNodes_eq]
    rfl

/-- The splits of checked attributes carry their conditions and names. -/
theorem forall₂_chainSplits {attributes : List Attribute}
    (checked : ∀ candidate ∈ attributes, candidate.hasCheck = true) :
    ∀ id : NodeId, List.Forall₂ (fun candidate split => ∃ condition,
      condition? entity candidate = some condition ∧ split.kind = .split condition candidate.name)
      attributes (chainSplits entity id attributes) := by
  induction attributes with
  | nil => exact fun _ => List.Forall₂.nil
  | cons candidate later inductionHypothesis =>
    intro id
    obtain ⟨condition, found⟩ := exists_condition? entity (checked candidate List.mem_cons_self)
    have first : (checkSplit entity id candidate).kind = .split condition candidate.name := by
      simp [checkSplit, found]
    have rest :=
      inductionHypothesis (fun other member => checked other (List.mem_cons_of_mem _ member))
        (id + 4)
    exact List.Forall₂.cons ⟨condition, found, first⟩ rest

/-! ## What a run through a chain does -/

variable {choice : Choice}

/-- The messages on the way through a chain are those of the checks whose splits are chosen
`false`. -/
theorem feedbacks_chainWalk (attributes : List Attribute) : ∀ id : NodeId,
    (chainWalk choice entity settings id attributes).filterMap Node.feedback? =
      ((attributes.zip (chainSplits entity id attributes)).filter fun pair => !choice pair.2.id).map
        fun pair => (QualifiedName.localPart entity, ⟨entity, pair.1.name⟩) := by
  induction attributes with
  | nil => exact fun _ => rfl
  | cons checked later inductionHypothesis =>
    intro id
    have isSplit : (checkSplit entity id checked).id = id := rfl
    rw [chainWalk, List.filterMap_append, inductionHypothesis, chainSplits, List.zip_cons_cons]
    cases chosen : choice id with
    | true =>
      rw [checkWalk_of_true chosen, List.filter_cons_of_neg (by simp [isSplit, chosen])]
      rfl
    | false =>
      rw [checkWalk_of_false chosen, List.filter_cons_of_pos (by simp [isSplit, chosen])]
      rfl

/-- The outcome is cleared once for each check whose split is chosen `false`, and not
assigned otherwise. -/
theorem assigned_chainWalk (attributes : List Attribute) : ∀ id : NodeId,
    (chainWalk choice entity settings id attributes).filterMap
        (Node.assigned? settings.validVariable) =
      ((chainSplits entity id attributes).filter fun split => !choice split.id).map
        fun _ => "false" := by
  induction attributes with
  | nil => exact fun _ => rfl
  | cons checked later inductionHypothesis =>
    intro id
    have isSplit : (checkSplit entity id checked).id = id := rfl
    have cleared : (checkInvalidation settings id).assigned? settings.validVariable = some "false" :=
      if_pos rfl
    rw [chainWalk, List.filterMap_append, inductionHypothesis, chainSplits]
    cases chosen : choice id with
    | true =>
      rw [checkWalk_of_true chosen, List.filter_cons_of_neg (by simp [isSplit, chosen])]
      rfl
    | false =>
      rw [checkWalk_of_false chosen, List.filter_cons_of_pos (by simp [isSplit, chosen])]
      simp only [List.filterMap_cons, cleared]
      rfl

/-- After `true` has been assigned first, the last value is `false` as soon as some check
clears it. -/
theorem getLast?_assigned (splits : List Node) :
    ("true" :: (splits.filter fun split => !choice split.id).map fun _ => "false").getLast? =
      some (if splits.all fun split => choice split.id then "true" else "false") := by
  by_cases passed : splits.all (fun split => choice split.id) = true
  · have none : (splits.filter fun split => !choice split.id) = [] := by
      apply List.filter_eq_nil_iff.mpr
      intro split member failed
      have holds := List.all_eq_true.mp passed split member
      simp [holds] at failed
    rw [none, if_pos passed]
    rfl
  · obtain ⟨split, member, failed⟩ : ∃ split ∈ splits, choice split.id = false := by
      simpa using passed
    have some : (splits.filter fun split => !choice split.id) ≠ [] :=
      List.ne_nil_of_mem (List.mem_filter.mpr ⟨member, by simp [failed]⟩)
    rw [if_neg passed, List.getLast?_cons_of_ne_nil (by simpa using some), List.map_const',
      List.getLast?_replicate]
    simp only [List.length_eq_zero_iff, some, if_false]

/-! ## Validation microflows -/

/-- Diamonds hold no start event, end event or parameter. -/
theorem inner_of_mem_chainNodes {attributes : List Attribute} {node : Node} : ∀ {id : NodeId},
    node ∈ chainNodes entity settings id attributes →
      node.isStart = false ∧ node.isEnd = false ∧ node.isParameter = false := by
  induction attributes with
  | nil => exact fun member => absurd member List.not_mem_nil
  | cons checked later inductionHypothesis =>
    intro id member
    rcases List.mem_append.mp member with inDiamond | inRest
    · simp only [checkNodes_eq, List.mem_cons, List.not_mem_nil, or_false] at inDiamond
      rcases inDiamond with rfl | rfl | rfl | rfl
      · exact ⟨rfl, rfl, rfl⟩
      · exact ⟨rfl, rfl, rfl⟩
      · exact ⟨rfl, rfl, rfl⟩
      · exact ⟨rfl, rfl, rfl⟩
    · exact inductionHypothesis inRest

section Plan

variable (entity : Entity) (moduleName : String) (settings : ValidationSettings)

/-- The splits of a validation microflow are those of its chain, one for each checked attribute in
declared order. -/
theorem validationPlan_splits :
    (validationPlan entity moduleName settings).nodes.filter Node.isSplit =
    chainSplits (QualifiedName.qualified moduleName entity.name) 3
      (checkedAttributes entity.attributes) := by
  rw [validationPlan_nodes, List.filter_append, List.filter_append, filter_isSplit_chainNodes]
  exact List.append_nil _

/-- There is one split for each attribute that is not left out. -/
theorem countP_isSplit_validationPlan :
    (validationPlan entity moduleName settings).nodes.countP Node.isSplit +
      (uncheckedAttributes entity.attributes).length = entity.attributes.length := by
  have checked : ∀ candidate ∈ checkedAttributes entity.attributes, candidate.hasCheck = true :=
    fun _ member => (List.mem_filter.mp member).2
  rw [List.countP_eq_length_filter, validationPlan_splits,
    ← (forall₂_chainSplits checked 3).length_eq, length_checkedAttributes]

/-- A validation microflow has a single end event, the last node drawn. -/
theorem validationPlan_ends :
    (validationPlan entity moduleName settings).nodes.filter Node.isEnd =
      [finalNode entity settings] := by
  have none : (chainNodes (QualifiedName.qualified moduleName entity.name) settings 3
      (checkedAttributes entity.attributes)).filter Node.isEnd = [] := by
    apply List.filter_eq_nil_iff.mpr
    intro node member
    simp [(inner_of_mem_chainNodes member).2.1]
  rw [validationPlan_nodes, List.filter_append, List.filter_append, none]
  rfl

/-- A validation microflow takes one object, of the entity it is drawn for. -/
theorem validationPlan_parameters :
    (validationPlan entity moduleName settings).parameters.map Node.kind =
    [.parameter entity.name (.object (QualifiedName.qualified moduleName entity.name))] := by
  have none : (chainNodes (QualifiedName.qualified moduleName entity.name) settings 3
      (checkedAttributes entity.attributes)).filter Node.isParameter = [] := by
    apply List.filter_eq_nil_iff.mpr
    intro node member
    simp [(inner_of_mem_chainNodes member).2.2]
  rw [parameters, validationPlan_nodes, List.filter_append, List.filter_append, none]
  rfl

variable (choice : Choice)

/-- The planned walk is the only run for a choice: two runs would part at some node. -/
theorem isRun_validationPlan_iff (run : List Node) :
    (validationPlan entity moduleName settings).IsRun choice run ↔
      run = validationWalk entity moduleName settings choice := by
  have growing := (openAt_validationPlan entity moduleName settings).growing
  have isRun := isRun_validationPlan entity moduleName settings choice
  constructor
  · intro isOther
    exact isOther.unique growing.distinct growing.regular.oneStart isRun
  · rintro rfl
    exact isRun

/-- A run shows a message exactly for each split that is chosen `false`, in declared order.
Attributes are paired with splits by position, so attributes of the same name are told apart. -/
theorem feedbacks_validationWalk :
    (validationWalk entity moduleName settings choice).filterMap Node.feedback? =
      (((checkedAttributes entity.attributes).zip
          ((validationPlan entity moduleName settings).nodes.filter Node.isSplit)).filter
        fun pair => !choice pair.2.id).map fun pair =>
          (QualifiedName.localPart (QualifiedName.qualified moduleName entity.name),
            ⟨QualifiedName.qualified moduleName entity.name, pair.1.name⟩) := by
  rw [validationPlan_splits, validationWalk, List.filterMap_append, List.filterMap_append,
    feedbacks_chainWalk]
  exact List.append_nil _

/-- The outcome starts with `true`, so it ends with `true` when no diamond clears it. -/
theorem getLast?_assigned_validationWalk :
    ((validationWalk entity moduleName settings choice).filterMap
        (Node.assigned? settings.validVariable)).getLast? =
      some (if ((validationPlan entity moduleName settings).nodes.filter Node.isSplit).all
        fun split => choice split.id then "true" else "false") := by
  have created : (nodeAt 2 ⟨100, 100⟩
      (.perform (.createVariable settings.validVariable .boolean "true"))).assigned?
        settings.validVariable = some "true" :=
    if_pos rfl
  have first : (validationHead entity.name moduleName settings).tail.filterMap
      (Node.assigned? settings.validVariable) = ["true"] := by
    simp only [validationHead, List.tail_cons, List.filterMap_cons, created]
    rfl
  have last : [finalNode entity settings].filterMap (Node.assigned? settings.validVariable) = [] :=
    rfl
  rw [validationPlan_splits, validationWalk, List.filterMap_append, List.filterMap_append,
    assigned_chainWalk, first, last, List.append_nil]
  exact getLast?_assigned _

end Plan

/-- For every choice of the cases a validation microflow has exactly one run. It ends at the
only end event, which returns the outcome. The splits are those of the attributes with a
check, in order. The messages on the run are those of the attributes whose split is chosen
`false`, each at the parameter and at that attribute of the entity, and the value that the
outcome gets last says whether all splits are chosen `true`. -/
theorem validation_outcome {entity : Entity} {moduleName : String} {settings : ValidationSettings}
    {microflow : Microflow} {leftOut : List UncheckedAttribute} (undotted : '.' ∉ moduleName.toList)
    (drawn : validationMicroflow? entity moduleName settings = some (microflow, leftOut))
    (choice : Choice) :
    let qualified := QualifiedName.qualified moduleName entity.name
    let checked := checkedAttributes entity.attributes
    let splits := microflow.nodes.filter Node.isSplit
    ∃ run final,
      (∀ other, microflow.IsRun choice other ↔ other = run) ∧
      microflow.nodes.filter Node.isEnd = [final] ∧ run.getLast? = some final ∧
      final.kind = .endEvent ("$" ++ settings.validVariable) ∧
      microflow.parameters.map Node.kind = [.parameter entity.name (.object qualified)] ∧
      List.Forall₂ (fun candidate split => ∃ condition,
        candidate.type.check? (attributeReference entity.name candidate.name) = some condition ∧
          split.kind = .split condition candidate.name) checked splits ∧
      run.filterMap Node.feedback? =
        ((checked.zip splits).filter fun pair => !choice pair.2.id).map
          (fun pair => (entity.name, ⟨qualified, pair.1.name⟩)) ∧
      (run.filterMap (Node.assigned? settings.validVariable)).getLast? =
        some (if splits.all fun split => choice split.id then "true" else "false") := by
  obtain ⟨_, rfl, _⟩ := validationMicroflow?_eq_some.mp drawn
  have localName :
      QualifiedName.localPart (QualifiedName.qualified moduleName entity.name) = entity.name := by
    rw [QualifiedName.localPart, QualifiedName.split?_qualified undotted]
  have hasCheck : ∀ candidate ∈ checkedAttributes entity.attributes, candidate.hasCheck = true :=
    fun candidate member => (List.mem_filter.mp member).2
  have splits :
      List.Forall₂ _ _ (chainSplits (QualifiedName.qualified moduleName entity.name) 3 _) :=
    forall₂_chainSplits hasCheck 3
  have shown := feedbacks_validationWalk entity moduleName settings choice
  rw [localName] at shown
  refine ⟨validationWalk entity moduleName settings choice, finalNode entity settings,
    isRun_validationPlan_iff entity moduleName settings choice,
    validationPlan_ends entity moduleName settings, List.getLast?_concat, rfl,
    validationPlan_parameters entity moduleName settings, ?_, shown,
    getLast?_assigned_validationWalk entity moduleName settings choice⟩
  rw [validationPlan_splits]
  simpa only [condition?, localName] using splits

/-- An order with a total that is not paid is asked to be paid, and its validation fails. -/
theorem validation_outcome_order : '.' ∉ "Shop".toList ∧
    validationMicroflow? .order "Shop" .standard =
      some (validationPlan .order "Shop" .standard, [⟨"Number", "AutoNumber"⟩]) ∧
    ∃ run, (validationPlan .order "Shop" .standard).IsRun (fun split => split == 3) run ∧
      run.filterMap Node.feedback? = [("Order", ⟨"Shop.Order", "Paid"⟩)] ∧
      (run.filterMap (Node.assigned? "IsValid")).getLast? = some "false" := by
  have undotted : '.' ∉ "Shop".toList := by decide
  obtain ⟨run, _, only, _, _, _, _, _, shown, outcome⟩ :=
    validation_outcome undotted validationMicroflow?_order fun split => split == 3
  refine ⟨undotted, validationMicroflow?_order, run, (only run).mpr rfl, shown.trans ?_,
    outcome.trans ?_⟩
  · decide +kernel
  · decide +kernel

end FlowModel
