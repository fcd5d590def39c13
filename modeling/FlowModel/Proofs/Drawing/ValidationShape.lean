import FlowModel.Proofs.Drawing.ValidationRuns

/-!
# The shape of validation microflows

With `n` checked attributes a validation microflow has `4 n + 4` nodes, numbered in stored
order, and `5 n + 2` flows. Its main line passes all diamonds straight, from left to right
at one height. Attributes without a check leave no trace but their place in the list of
those left out (`validation_shape`).
-/

namespace FlowModel

open Draft Microflow

/-! ## Chains -/

section Chain

variable {entity : String} {settings : ValidationSettings}

/-- The kinds of the nodes of the diamond of an attribute. -/
def checkKinds (entity : String) (settings : ValidationSettings) (checked : Attribute) :
    List NodeKind :=
  [.split ((condition? entity checked).getD "") checked.name,
    .perform (.changeVariable settings.validVariable "false"),
    .perform (.validationFeedback (QualifiedName.localPart entity) ⟨entity, checked.name⟩
      (.english settings.requiredMessage)),
    .merge]

/-- The kinds along a chain depend on attributes and settings, not on ids. -/
theorem map_kind_chainNodes (attributes : List Attribute) : ∀ id : NodeId,
    (chainNodes entity settings id attributes).map Node.kind =
      attributes.flatMap (checkKinds entity settings) := by
  induction attributes with
  | nil => exact fun _ => rfl
  | cons checked later inductionHypothesis =>
    intro id
    rw [chainNodes, List.map_append, inductionHypothesis, List.flatMap_cons]
    rfl

/-- The ids of a chain follow one another. -/
theorem map_id_chainNodes (attributes : List Attribute) : ∀ id : NodeId,
    (chainNodes entity settings id attributes).map Node.id =
      List.range' id (4 * attributes.length) := by
  induction attributes with
  | nil => exact fun _ => rfl
  | cons checked later inductionHypothesis =>
    intro id
    have diamond : (checkNodes entity settings id checked).map Node.id = List.range' id 4 := rfl
    rw [chainNodes, List.map_append, inductionHypothesis, diamond, List.range'_append_1,
      List.length_cons, Nat.mul_succ, Nat.add_comm 4]

/-- A chain has five flows for each attribute. -/
theorem length_chainFlows (attributes : List Attribute) : ∀ tail id : NodeId,
    (chainFlows tail id attributes).length = 5 * attributes.length := by
  induction attributes with
  | nil => exact fun _ _ => rfl
  | cons checked later inductionHypothesis =>
    intro tail id
    have diamond : (diamondFlows tail id).length = 5 := rfl
    rw [chainFlows, List.length_append, inductionHypothesis, diamond, List.length_cons,
      Nat.mul_succ, Nat.add_comm 5]

/-- The straight way through a chain. -/
theorem chainWalk_cons_true (id : NodeId) (checked : Attribute) (later : List Attribute) :
    chainWalk (fun _ => true) entity settings id (checked :: later) =
      checkSplit entity id checked :: checkMerge id :: chainWalk (fun _ => true) entity settings
        (id + 4) later :=
  rfl

/-- A walk along a chain visits nodes in stored order, each of them once. -/
theorem chainWalk_sublist (choice : Choice) (attributes : List Attribute) : ∀ id : NodeId,
    (chainWalk choice entity settings id attributes).Sublist
      (chainNodes entity settings id attributes) := by
  induction attributes with
  | nil => exact fun _ => List.Sublist.slnil
  | cons checked later inductionHypothesis =>
    exact fun id => List.Sublist.append List.filter_sublist (inductionHypothesis (id + 4))

/-- The straight walk along a chain visits the first and the last id of each diamond. -/
theorem map_id_chainWalk_true (attributes : List Attribute) : ∀ id : NodeId,
    (chainWalk (fun _ => true) entity settings id attributes).map Node.id =
      (List.range attributes.length).flatMap fun k => [id + 4 * k, id + 4 * k + 3] := by
  induction attributes with
  | nil => exact fun _ => rfl
  | cons checked later inductionHypothesis =>
    intro id
    have shifted : ∀ k, id + 4 + 4 * k = id + 4 * (k + 1) := by
      intro k
      rw [Nat.mul_succ, Nat.add_comm (4 * k) 4, Nat.add_assoc]
    rw [chainWalk_cons_true, List.map_cons, List.map_cons, inductionHypothesis, List.length_cons,
      List.range_succ_eq_map, List.flatMap_cons, List.flatMap_map]
    simp only [shifted]
    rfl

/-- The straight walk along a chain visits a split and a merge for each attribute. -/
theorem map_kind_chainWalk_true (attributes : List Attribute) : ∀ id : NodeId,
    (chainWalk (fun _ => true) entity settings id attributes).map Node.kind =
      attributes.flatMap fun checked =>
        [.split ((condition? entity checked).getD "") checked.name, .merge] := by
  induction attributes with
  | nil => exact fun _ => rfl
  | cons checked later inductionHypothesis =>
    intro id
    rw [chainWalk_cons_true, List.map_cons, List.map_cons, inductionHypothesis]
    rfl

/-- The straight way through a chain stays at one height. -/
theorem level_chainWalk_true (attributes : List Attribute) : ∀ id : NodeId,
    ∀ node ∈ chainWalk (fun _ => true) entity settings id attributes, node.position.y = 100 := by
  induction attributes with
  | nil => exact fun _ node member => absurd member List.not_mem_nil
  | cons checked later inductionHypothesis =>
    intro id node member
    rw [chainWalk_cons_true] at member
    rcases List.mem_cons.mp member with rfl | member
    · rfl
    · rcases List.mem_cons.mp member with rfl | member
      · rfl
      · exact inductionHypothesis (id + 4) node member

/-- The straight way through a chain leads from left to right, behind its tail. -/
theorem ascending_chainWalk_true (attributes : List Attribute) : ∀ id : NodeId,
    ((tailX id :: (chainWalk (fun _ => true) entity settings id attributes).map
      (fun node => node.position.x)) ++
      [tailX (id + 4 * attributes.length) + 100]).IsChain (· < ·) := by
  induction attributes with
  | nil =>
    intro id
    simp [chainWalk]
  | cons checked later inductionHypothesis =>
    intro id
    have rest := inductionHypothesis (id + 4)
    have counted : id + 4 + 4 * later.length = id + 4 * (checked :: later).length := by
      rw [List.length_cons, Nat.mul_succ, Nat.add_comm (4 * later.length) 4, Nat.add_assoc]
    have merge : (checkMerge id).position.x = tailX (id + 4) := (tailX_add_four id).symm
    have toSplit : tailX id < (checkSplit entity id checked).position.x := by
      show tailX id < tailX id + 200
      omega
    have toMerge : (checkSplit entity id checked).position.x < tailX (id + 4) := by
      rw [tailX_add_four]
      show tailX id + 200 < tailX id + 400
      omega
    rw [chainWalk_cons_true, List.map_cons, List.map_cons, merge, ← counted]
    exact List.isChain_cons_cons.mpr ⟨toSplit, List.isChain_cons_cons.mpr ⟨toMerge, rest⟩⟩

end Chain

/-! ## Whole microflows -/

/-- The shape of the validation microflow of an entity, by the attributes that have a check. -/
structure ValidationShape (entity : Entity) (moduleName : String) (settings : ValidationSettings)
    (microflow : Microflow) : Prop where
  ids : microflow.nodes.map Node.id =
    List.range (4 * (checkedAttributes entity.attributes).length + 4)
  kinds : microflow.nodes.map Node.kind =
    [.parameter entity.name (.object (QualifiedName.qualified moduleName entity.name)), .startEvent,
      .perform (.createVariable settings.validVariable .boolean "true")] ++
    (checkedAttributes entity.attributes).flatMap
      (checkKinds (QualifiedName.qualified moduleName entity.name) settings) ++
    [.endEvent ("$" ++ settings.validVariable)]
  flowCount : microflow.flows.length = 5 * (checkedAttributes entity.attributes).length + 2
  lineStored : microflow.mainLine.Sublist microflow.nodes
  lineIds : microflow.mainLine.map Node.id = [1, 2] ++
    ((List.range (checkedAttributes entity.attributes).length).flatMap fun k =>
      [4 * k + 3, 4 * k + 6]) ++
    [4 * (checkedAttributes entity.attributes).length + 3]
  lineKinds : microflow.mainLine.map Node.kind =
    [.startEvent, .perform (.createVariable settings.validVariable .boolean "true")] ++
    ((checkedAttributes entity.attributes).flatMap fun checked =>
      [.split ((condition? (QualifiedName.qualified moduleName entity.name) checked).getD "")
        checked.name, .merge]) ++
    [.endEvent ("$" ++ settings.validVariable)]
  ascending : (microflow.mainLine.map fun node => node.position.x).Pairwise (· < ·)
  level : ∀ node ∈ microflow.mainLine, node.position.y = 100

variable (entity : Entity) (moduleName : String) (settings : ValidationSettings)

/-- The main line is the walk on which all checks are passed, as it takes the flow labelled `true`
at each split. -/
theorem mainLine_validationPlan : (validationPlan entity moduleName settings).mainLine =
    validationWalk entity moduleName settings fun _ => true := by
  have growing := (openAt_validationPlan entity moduleName settings).growing
  exact (isRun_validationPlan entity moduleName settings fun _ => true).mainLine_eq growing.distinct
    growing.regular

/-- The closed form has the shape in all its parts. Each part is a statement about the chain of
diamonds, which is proved by induction over the checked attributes, with the fixed beginning and the
end event around it. -/
theorem validationShape_validationPlan :
    ValidationShape entity moduleName settings (validationPlan entity moduleName settings) := by
  have line := mainLine_validationPlan entity moduleName settings
  constructor
  case ids =>
    -- The head has the ids up to 2, each diamond has four, and the end event has the last one.
    have head : (validationHead entity.name moduleName settings).map Node.id = List.range' 0 3 :=
      rfl
    have final : [finalNode entity settings].map Node.id =
        [0 + (3 + 4 * (checkedAttributes entity.attributes).length)] :=
      congrArg List.singleton (Nat.zero_add _).symm
    rw [validationPlan_nodes, List.map_append, List.map_append, map_id_chainNodes, head, final,
      List.range'_append_1, ← List.range'_1_concat, List.range_eq_range', Nat.add_assoc,
      Nat.add_comm 3, Nat.add_assoc]
  case kinds =>
    rw [validationPlan_nodes, List.map_append, List.map_append, map_kind_chainNodes]
    rfl
  case flowCount =>
    have counted : (validationPlan entity moduleName settings).flows.length =
        1 + (chainFlows 2 3 (checkedAttributes entity.attributes)).length + 1 := by
      simp [validationPlan, Microflow.empty, Nat.add_comm]
    rw [counted, length_chainFlows]
    omega
  case lineStored =>
    -- The head is a list of its own, of which the walk leaves out the parameter.
    rw [line, validationWalk, validationPlan_nodes]
    exact ((List.tail_sublist _).append (chainWalk_sublist _ _ _)).append (List.Sublist.refl _)
  case lineIds =>
    have final : [finalNode entity settings].map Node.id =
        [4 * (checkedAttributes entity.attributes).length + 3] :=
      congrArg List.singleton (Nat.add_comm 3 _)
    have places : ∀ k, [(3 : NodeId) + 4 * k, 3 + 4 * k + 3] = [4 * k + 3, 4 * k + 6] := by
      intro k
      rw [Nat.add_comm 3 (4 * k)]
    rw [line, validationWalk, List.map_append, List.map_append, map_id_chainWalk_true, final]
    simp only [places]
    rfl
  case lineKinds =>
    rw [line, validationWalk, List.map_append, List.map_append, map_kind_chainWalk_true]
    rfl
  case ascending =>
    -- The chain starts at the coordinate of its tail, so what is left is the step from the start.
    have first : (0 : Int) < tailX 3 := by decide
    rw [line, validationWalk, List.map_append, List.map_append]
    exact List.isChain_iff_pairwise.mp
      (List.isChain_cons_cons.mpr
        ⟨first, ascending_chainWalk_true (checkedAttributes entity.attributes) 3⟩)
  case level =>
    rw [line]
    intro node member
    rcases List.mem_append.mp member with member | isFinal
    · rcases List.mem_append.mp member with inHead | inChain
      · simp only [validationHead, List.tail_cons, List.mem_cons, List.not_mem_nil,
          or_false] at inHead
        rcases inHead with rfl | rfl
        · rfl
        · rfl
      · exact level_chainWalk_true _ _ node inChain
    · rw [List.mem_singleton.mp isFinal]
      rfl

/-- A validation microflow is drawn whenever its `n` diamonds fit on the canvas, and only
then. It has the shape given by the checked attributes; those left out are the others, in
order; and it is, node for node and flow for flow, the microflow of the entity with only its
checked attributes. -/
theorem validation_shape :
    (greatestCoordinate < 400 * ((checkedAttributes entity.attributes).length : Int) + 200 ∧
        validationMicroflow? entity moduleName settings = none) ∨
      ∃ microflow,
        validationMicroflow? entity moduleName settings =
          some (microflow, uncheckedAttributes entity.attributes) ∧
        ValidationShape entity moduleName settings microflow ∧
        validationMicroflow? { entity with attributes := checkedAttributes entity.attributes }
            moduleName settings =
          some (microflow, []) := by
  have reach : tailX entity.finalId + 100 =
      400 * ((checkedAttributes entity.attributes).length : Int) + 200 := by
    unfold tailX Entity.finalId
    push_cast
    omega
  by_cases fits : tailX entity.finalId + 100 ≤ greatestCoordinate
  · right
    refine ⟨_, validationMicroflow?_eq_some.mpr ⟨fits, rfl, rfl⟩,
      validationShape_validationPlan entity moduleName settings,
      validationMicroflow?_eq_some.mpr ⟨?_, ?_, ?_⟩⟩
    · simpa only [Entity.finalId, checkedAttributes_idem] using fits
    · simp only [validationPlan, Entity.finalId, checkedAttributes_idem]
    · exact (uncheckedAttributes_checkedAttributes entity.attributes).symm
  · left
    refine ⟨by omega, Option.eq_none_iff_forall_ne_some.mpr ?_⟩
    rintro ⟨microflow, leftOut⟩ drawn
    exact fits (validationMicroflow?_eq_some.mp drawn).1

end FlowModel
