import FlowModel.Proofs.Drawing.Diamond

/-!
# Validation microflows in closed form

The id of a node fixes its place: where the next id is `n`, the cursor of the main line
stands at `100 n - 200`. So the microflow of an entity is a function of its checked
attributes alone, one diamond each behind a fixed beginning, and it is drawn exactly when
its end event is on the canvas. Ids are never exhausted first.
-/

namespace FlowModel

/-! ## Checked attributes -/

/-- Whether the type of an attribute has a check. -/
def Attribute.hasCheck (candidate : Attribute) : Bool := (candidate.type.check? "").isSome

/-- The attributes that have a check, in order. -/
def checkedAttributes (attributes : List Attribute) : List Attribute :=
  attributes.filter Attribute.hasCheck

/-- The attributes without a check, in order, each with the name of its type. -/
def uncheckedAttributes (attributes : List Attribute) : List UncheckedAttribute :=
  (attributes.filter fun candidate => !candidate.hasCheck).map fun candidate =>
    ⟨candidate.name, candidate.type.name⟩

/-- How an attribute is referred to does not decide whether its type has a check. -/
theorem AttributeType.isSome_check? (type : AttributeType) (reference : String) :
    (type.check? reference).isSome = (type.check? "").isSome := by
  cases type <;> rfl

/-- Whether there is a condition depends on the type of the attribute alone. -/
theorem Draft.isSome_condition? (entity : String) (candidate : Attribute) :
    (Draft.condition? entity candidate).isSome = candidate.hasCheck :=
  candidate.type.isSome_check? _

/-- A checked attribute has a condition, so its diamond is drawn. -/
theorem Draft.exists_condition? (entity : String) {candidate : Attribute}
    (hasCheck : candidate.hasCheck = true) :
    ∃ condition, Draft.condition? entity candidate = some condition :=
  Option.isSome_iff_exists.mp ((Draft.isSome_condition? entity candidate).trans hasCheck)

/-- The first attribute counts if its type has a check. -/
theorem checkedAttributes_cons (candidate : Attribute) (later : List Attribute) :
    checkedAttributes (candidate :: later) =
      if candidate.hasCheck then candidate :: checkedAttributes later
      else checkedAttributes later :=
  List.filter_cons

/-- The first attribute is reported if its type has no check, with the name of that type. -/
theorem uncheckedAttributes_cons (candidate : Attribute) (later : List Attribute) :
    uncheckedAttributes (candidate :: later) =
      if candidate.hasCheck then uncheckedAttributes later
      else ⟨candidate.name, candidate.type.name⟩ :: uncheckedAttributes later := by
  cases checked : candidate.hasCheck <;> simp [uncheckedAttributes, checked]

/-- Every attribute has a check or is left out. -/
theorem length_checkedAttributes (attributes : List Attribute) :
    (checkedAttributes attributes).length + (uncheckedAttributes attributes).length =
      attributes.length := by
  rw [uncheckedAttributes, List.length_map]
  exact (List.length_eq_length_filter_add Attribute.hasCheck).symm

/-- Attributes that have a check all have one. -/
@[simp] theorem checkedAttributes_idem (attributes : List Attribute) :
    checkedAttributes (checkedAttributes attributes) = checkedAttributes attributes := by
  simp [checkedAttributes]

/-- Among checked attributes none is left out. -/
@[simp] theorem uncheckedAttributes_checkedAttributes (attributes : List Attribute) :
    uncheckedAttributes (checkedAttributes attributes) = [] := by
  simp [uncheckedAttributes, checkedAttributes, List.filter_filter]

/-! ## Places on the main line -/

/-- The coordinate of the tail on the main line where the next id is a given one. -/
def tailX (id : NodeId) : Int := 100 * (id : Int) - 200

/-- Four ids later the tail stands 400 units further to the right. -/
theorem tailX_add_four (id : NodeId) : tailX (id + 4) = tailX id + 400 := by
  unfold tailX
  push_cast
  omega

/-- Later ids stand further to the right. -/
theorem tailX_mono {one other : NodeId} (before : one ≤ other) : tailX one ≤ tailX other := by
  have counted : (one : Int) ≤ (other : Int) := Int.ofNat_le.mpr before
  unfold tailX
  omega

/-- From the start event on, tails are not left of the origin. -/
theorem tailX_nonneg {id : NodeId} (started : 2 ≤ id) : 0 ≤ tailX id := by
  have counted : 2 ≤ (id : Int) := Int.ofNat_le.mpr started
  unfold tailX
  omega

/-- Ids do not run out before the canvas does. -/
theorem lt_greatestNodeId_of_tailX {id : NodeId} (fits : tailX id ≤ greatestCoordinate) :
    id + 3 < greatestNodeId := by
  have bounded : 100 * (id : Int) - 200 ≤ 2147483647 := fits
  have small : (id : Int) + 3 < 4294967295 := by omega
  exact Int.ofNat_lt.mp small

/-- The places of a diamond behind a coordinate of the main line. -/
def DiamondPlaces.behind (x : Int) : DiamondPlaces :=
  ⟨⟨x + 200, 100⟩, ⟨x + 200, 200⟩, ⟨x + 400, 200⟩, ⟨x + 400, 100⟩⟩

/-- The cursors of a layout whose tail is on the main line: no branch is open and one
parameter is placed. -/
def Layout.onLine (x : Int) : Layout := ⟨⟨x, 100⟩, none, ⟨100, 0⟩⟩

namespace Layout

variable {x : Int}

/-- An offset to the right moves along the main line while it stays on the canvas. -/
theorem advance?_onLine (started : 0 ≤ x) {dx : Int} (forward : 0 ≤ dx) :
    (onLine x).advance? dx 0 =
      if x + dx ≤ greatestCoordinate then some (⟨x + dx, 100⟩, onLine (x + dx)) else none := by
  have level : OnCanvas 100 := by decide
  by_cases fits : x + dx ≤ greatestCoordinate
  · have inside : OnCanvas (x + dx) := by
      unfold OnCanvas leastCoordinate
      omega
    simp [onLine, advance?, Position.moved?, inside, fits, level]
  · have outside : ¬ OnCanvas (x + dx) := fun onCanvas => fits onCanvas.2
    simp [onLine, advance?, Position.moved?, outside, fits]

/-- A diamond fits while its merge stays on the canvas. -/
theorem diamond?_onLine (started : 0 ≤ x) :
    (onLine x).diamond? =
      if x + 400 ≤ greatestCoordinate then some (.behind x, onLine (x + 400)) else none := by
  have twice : x + 200 + 200 = x + 400 := by omega
  have level : OnCanvas 100 := by decide
  have below : OnCanvas 200 := by decide
  by_cases fits : x + 400 ≤ greatestCoordinate
  · have first : OnCanvas (x + 200) := by
      unfold OnCanvas leastCoordinate
      omega
    have second : OnCanvas (x + 400) := by
      unfold OnCanvas leastCoordinate
      omega
    simp [onLine, diamond?, advance?, Position.moved?, DiamondPlaces.behind, first, second, fits,
      twice, level, below]
  · have outside : ¬ OnCanvas (x + 400) := fun onCanvas => fits onCanvas.2
    by_cases first : OnCanvas (x + 200)
    · simp [onLine, diamond?, advance?, Position.moved?, first, outside, fits, twice, level, below]
    · simp [onLine, diamond?, advance?, Position.moved?, first, fits]

end Layout

namespace Draft

variable {draft after : Draft}

/-! ## Chains of diamonds -/

/-- The draft whose next id is a given one, with its tail where that id wants it. -/
def aligned (microflow : Microflow) (id : NodeId) : Draft := ⟨microflow, ⟨id⟩, .onLine (tailX id)⟩

/-- The split of the diamond of an attribute on the main line. -/
def checkSplit (entity : String) (id : NodeId) (checked : Attribute) : Node :=
  nodeAt id ⟨tailX id + 200, 100⟩ (.split ((condition? entity checked).getD "") checked.name)

/-- The activity that clears the outcome when a check fails. -/
def checkInvalidation (settings : ValidationSettings) (id : NodeId) : Node :=
  nodeAt (id + 1) ⟨tailX id + 200, 200⟩ (.perform (.changeVariable settings.validVariable "false"))

/-- The activity that shows a message at an attribute when its check fails. -/
def checkFeedback (entity : String) (settings : ValidationSettings) (id : NodeId)
    (checked : Attribute) : Node :=
  nodeAt (id + 2) ⟨tailX id + 400, 200⟩
    (.perform (.validationFeedback (QualifiedName.localPart entity)
    ⟨entity, checked.name⟩ (.english settings.requiredMessage)))

/-- The merge of a diamond on the main line. -/
def checkMerge (id : NodeId) : Node := nodeAt (id + 3) ⟨tailX id + 400, 100⟩ .merge

/-- The nodes of the diamond of an attribute on the main line, numbered from an id on. -/
def checkNodes (entity : String) (settings : ValidationSettings) (id : NodeId)
    (checked : Attribute) : List Node :=
  diamondNodes ⟨entity, checked.name⟩ ((condition? entity checked).getD "") settings id
    (.behind (tailX id))

/-- A diamond in stored order: the split, the branch, the merge. -/
theorem checkNodes_eq (entity : String) (settings : ValidationSettings) (id : NodeId)
    (checked : Attribute) :
    checkNodes entity settings id checked =
      [checkSplit entity id checked, checkInvalidation settings id,
        checkFeedback entity settings id checked, checkMerge id] :=
  rfl

/-- The nodes of the diamonds of attributes, numbered from an id on. -/
def chainNodes (entity : String) (settings : ValidationSettings) :
    NodeId → List Attribute → List Node
  | _, [] => []
  | id, checked :: later =>
    checkNodes entity settings id checked ++ chainNodes entity settings (id + 4) later

/-- The flows of the diamonds of attributes behind a tail, numbered from an id on. -/
def chainFlows : NodeId → NodeId → List Attribute → List Flow
  | _, _, [] => []
  | tail, id, _ :: later => diamondFlows tail id ++ chainFlows (id + 3) (id + 4) later

/-- The last node of a chain of diamonds behind a tail: the tail itself or the last merge. -/
def chainTail : NodeId → NodeId → List Attribute → NodeId
  | tail, _, [] => tail
  | _, id, _ :: later => chainTail (id + 3) (id + 4) later

/-- A diamond on the main line is drawn exactly when its merge stays on the canvas. -/
theorem run_appendDiamond_aligned {microflow : Microflow} {id tail merge : NodeId}
    {target : AttributeRef}
    {condition : String} {settings : ValidationSettings} (started : 2 ≤ id) :
    (appendDiamond target condition tail settings).run (aligned microflow id) =
      some (merge, after) ↔
      tailX (id + 4) ≤ greatestCoordinate ∧ merge = id + 3 ∧
        after = aligned
          (microflow.extended (diamondNodes target condition settings id (.behind (tailX id)))
          (diamondFlows tail id)) (id + 4) := by
  rw [run_appendDiamond_eq_some, tailX_add_four]
  simp only [aligned, Layout.diamond?_onLine (tailX_nonneg started), tailX_add_four]
  by_cases fits : tailX id + 400 ≤ greatestCoordinate
  · have room : id + 3 < greatestNodeId := lt_greatestNodeId_of_tailX (by omega)
    rw [if_pos fits]
    constructor
    · rintro ⟨places, layout, same, _, rfl, rfl⟩
      obtain ⟨rfl, rfl⟩ := Prod.mk.inj (Option.some.inj same)
      exact ⟨fits, rfl, rfl⟩
    · rintro ⟨_, rfl, rfl⟩
      exact ⟨_, _, rfl, room, rfl, rfl⟩
  · rw [if_neg fits]
    constructor
    · rintro ⟨_, _, impossible, _⟩
      exact nomatch impossible
    · rintro ⟨fitting, _⟩
      exact absurd fitting fits

/-- A node one step behind the tail is drawn exactly when it stays on the canvas. -/
theorem run_append_aligned {microflow : Microflow} {id tail added : NodeId} {kind : NodeKind}
    (started : 2 ≤ id) :
    (append kind 100 0 tail).run (aligned microflow id) = some (added, after) ↔
      tailX id + 100 ≤ greatestCoordinate ∧ added = id ∧
        after = ⟨microflow.extended [nodeAt id ⟨tailX id + 100, 100⟩ kind]
          [.ofLink tail id .straight], ⟨id + 1⟩, .onLine (tailX id + 100)⟩ := by
  rw [run_append_eq_some]
  simp only [aligned,
    Layout.advance?_onLine (tailX_nonneg started) (show (0 : Int) ≤ 100 by decide)]
  by_cases fits : tailX id + 100 ≤ greatestCoordinate
  · have room : id + 3 < greatestNodeId := lt_greatestNodeId_of_tailX (by omega)
    rw [if_pos fits]
    constructor
    · rintro ⟨position, layout, same, _, rfl, rfl⟩
      obtain ⟨rfl, rfl⟩ := Prod.mk.inj (Option.some.inj same)
      exact ⟨fits, rfl, rfl⟩
    · rintro ⟨_, rfl, rfl⟩
      exact ⟨_, _, rfl, Nat.lt_of_le_of_lt (Nat.le_add_right _ 3) room, rfl, rfl⟩
  · rw [if_neg fits]
    constructor
    · rintro ⟨_, _, impossible, _⟩
      exact nomatch impossible
    · rintro ⟨fitting, _⟩
      exact absurd fitting fits

/-- Checks one after another are drawn exactly when the last merge stays on the canvas. Each
attribute with a check adds a diamond behind the tail; the others are listed and change
nothing. -/
theorem run_appendChecks_aligned {entity : String} {settings : ValidationSettings}
    (attributes : List Attribute) :
    ∀ {microflow : Microflow} {id tail last : NodeId} {leftOut : List UncheckedAttribute}
      {after : Draft},
      2 ≤ id → tailX id ≤ greatestCoordinate →
      ((appendChecks entity settings tail attributes).run (aligned microflow id) =
        some ((last, leftOut), after) ↔
        tailX (id + 4 * (checkedAttributes attributes).length) ≤ greatestCoordinate ∧
          last = chainTail tail id (checkedAttributes attributes) ∧
          leftOut = uncheckedAttributes attributes ∧
          after = aligned
            (microflow.extended (chainNodes entity settings id (checkedAttributes attributes))
              (chainFlows tail id (checkedAttributes attributes)))
            (id + 4 * (checkedAttributes attributes).length)) := by
  induction attributes with
  | nil =>
    intro microflow id tail last leftOut after started inside
    rw [appendChecks, run_pure_eq_some, Prod.mk.injEq, and_assoc]
    simp only [checkedAttributes, uncheckedAttributes, List.filter_nil, List.map_nil,
      List.length_nil, chainTail, chainNodes, chainFlows, Microflow.extended_nil, Nat.mul_zero,
      Nat.add_zero]
    exact (and_iff_right inside).symm
  | cons candidate later inductionHypothesis =>
    intro microflow id tail last leftOut after started inside
    have known := isSome_condition? entity candidate
    rw [checkedAttributes_cons, uncheckedAttributes_cons]
    -- The condition is what the drawing looks at, the type is what the counts look at.
    cases condition : condition? entity candidate with
    | none =>
      have unchecked : candidate.hasCheck = false := by rw [← known, condition, Option.isSome_none]
      rw [run_appendChecks_of_unchecked condition]
      simp only [unchecked, Bool.false_eq_true, if_false, inductionHypothesis started inside]
      constructor
      · rintro ⟨others, rfl, fits, rfl, rfl, rfl⟩
        exact ⟨fits, rfl, rfl, rfl⟩
      · rintro ⟨fits, rfl, rfl, rfl⟩
        exact ⟨_, rfl, fits, rfl, rfl, rfl⟩
    | some expression =>
      have checked : candidate.hasCheck = true := by rw [← known, condition, Option.isSome_some]
      have counted : id + 4 * (candidate :: checkedAttributes later).length =
          id + 4 + 4 * (checkedAttributes later).length := by
        rw [List.length_cons, Nat.mul_succ, Nat.add_comm (4 * _) 4, Nat.add_assoc]
      rw [run_appendChecks_of_checked condition]
      simp only [checked, if_true, counted, chainTail, chainNodes, checkNodes, chainFlows,
        condition, Option.getD_some, ← Microflow.extended_extended]
      constructor
      · rintro ⟨merge, between, drawn, appended⟩
        obtain ⟨fits, rfl, rfl⟩ := (run_appendDiamond_aligned started).mp drawn
        exact (inductionHypothesis (Nat.le_add_right_of_le started) fits).mp appended
      · intro reached
        have fits : tailX (id + 4) ≤ greatestCoordinate :=
          Int.le_trans (tailX_mono (Nat.le_add_right _ _)) reached.1
        have appended := (inductionHypothesis (Nat.le_add_right_of_le started) fits).mpr reached
        exact ⟨id + 3, _, (run_appendDiamond_aligned started).mpr ⟨fits, rfl, rfl⟩, appended⟩

/-! ## Whole drawings -/

/-- The nodes before the first check: the parameter, the start event and the variable that
carries the outcome. -/
def validationHead (entity : String) (moduleName : String) (settings : ValidationSettings) :
    List Node :=
  [nodeAt 0 .origin (.parameter entity (.object (QualifiedName.qualified moduleName entity))),
    nodeAt 1 ⟨0, 100⟩ .startEvent,
    nodeAt 2 ⟨100, 100⟩ (.perform (.createVariable settings.validVariable .boolean "true"))]

/-- The draft in which the first check is drawn. -/
def validationDraft (entity moduleName : String) (settings : ValidationSettings) : Draft :=
  aligned ((Microflow.empty (settings.microflowName entity) .boolean).extended
    (validationHead entity moduleName settings) [.ofLink 1 2 .straight]) 3

/-- The drawing of a validation microflow from its first check on. -/
theorem run_drawValidation_eq (entity : Entity) (moduleName : String)
    (settings : ValidationSettings) :
    (drawValidation entity moduleName settings).run
      (empty (settings.microflowName entity.name) .boolean) =
      (do
        let (tail, leftOut) ←
          appendChecks (QualifiedName.qualified moduleName entity.name) settings 2 entity.attributes
        let _ ← append (.endEvent ("$" ++ settings.validVariable)) 100 0 tail
        return leftOut : Drafting (List UncheckedAttribute)).run
        (validationDraft entity.name moduleName settings) :=
  rfl

end Draft

open Draft

/-- The id of the end event in the validation microflow of an entity. -/
def Entity.finalId (entity : Entity) : NodeId :=
  3 + 4 * (checkedAttributes entity.attributes).length

/-- The validation microflow of an entity: the head, a diamond for each attribute with a
check, and the end event, each behind the tail before it. -/
def validationPlan (entity : Entity) (moduleName : String) (settings : ValidationSettings) :
    Microflow :=
  let qualified := QualifiedName.qualified moduleName entity.name
  let checked := checkedAttributes entity.attributes
  let final := entity.finalId
  (Microflow.empty (settings.microflowName entity.name) .boolean).extended
    (validationHead entity.name moduleName settings ++ chainNodes qualified settings 3 checked ++
      [nodeAt final ⟨tailX final + 100, 100⟩ (.endEvent ("$" ++ settings.validVariable))])
    ([.ofLink 1 2 .straight] ++ chainFlows 2 3 checked ++
      [.ofLink (chainTail 2 3 checked) final .straight])

/-- The microflow of an entity before its end event is drawn. -/
def openValidationPlan (entity : Entity) (moduleName : String) (settings : ValidationSettings) :
    Microflow :=
  let qualified := QualifiedName.qualified moduleName entity.name
  let checked := checkedAttributes entity.attributes
  (validationDraft entity.name moduleName settings).microflow.extended
    (chainNodes qualified settings 3 checked) (chainFlows 2 3 checked)

/-- A validation microflow is its open part with an end event one step behind the last tail. The
drawing ends with the same step. -/
theorem validationPlan_eq (entity : Entity) (moduleName : String) (settings : ValidationSettings) :
    let checked := checkedAttributes entity.attributes
    let final := entity.finalId
    validationPlan entity moduleName settings =
      (openValidationPlan entity moduleName settings).extended
        [nodeAt final ⟨tailX final + 100, 100⟩ (.endEvent ("$" ++ settings.validVariable))]
        [.ofLink (chainTail 2 3 checked) final .straight] := by
  simp only [openValidationPlan, validationDraft, aligned, Microflow.extended_extended]
  rfl

/-- A validation microflow is drawn exactly when its end event stays on the canvas, and then
it is the planned one; the attributes without a check are left out in their order. -/
theorem validationMicroflow?_eq_some {entity : Entity} {moduleName : String}
    {settings : ValidationSettings} {microflow : Microflow} {leftOut : List UncheckedAttribute} :
    validationMicroflow? entity moduleName settings = some (microflow, leftOut) ↔
      tailX entity.finalId + 100 ≤ greatestCoordinate ∧
        microflow = validationPlan entity moduleName settings ∧
        leftOut = uncheckedAttributes entity.attributes := by
  have two : 2 ≤ entity.finalId := Nat.le_add_right_of_le (by decide)
  rw [validationMicroflow?, run_drawValidation_eq, validationPlan_eq]
  constructor
  · intro drawn
    obtain ⟨⟨_, draft⟩, ran, same⟩ := Option.bind_eq_some_iff.mp drawn
    obtain ⟨rfl, rfl⟩ := Prod.mk.inj (Option.some.inj same)
    obtain ⟨⟨tail, others⟩, checked, chain, rest⟩ := run_bind_eq_some.mp ran
    obtain ⟨_, ended, final, finished⟩ := run_bind_eq_some.mp rest
    obtain ⟨rfl, rfl⟩ := run_pure_eq_some.mp finished
    obtain ⟨_, rfl, rfl, rfl⟩ :=
      (run_appendChecks_aligned entity.attributes (by decide) (by decide)).mp chain
    obtain ⟨fits, rfl, rfl⟩ := (run_append_aligned two).mp final
    exact ⟨fits, rfl, rfl⟩
  · rintro ⟨fits, rfl, rfl⟩
    have inside : tailX entity.finalId ≤ greatestCoordinate := by omega
    have chain :
        (appendChecks (QualifiedName.qualified moduleName entity.name) settings 2
          entity.attributes).run (validationDraft entity.name moduleName settings) = some (_, _) :=
      (run_appendChecks_aligned entity.attributes (by decide) (by decide)).mpr
        ⟨inside, rfl, rfl, rfl⟩
    have ended : (append (.endEvent ("$" ++ settings.validVariable)) 100 0
        (chainTail 2 3 (checkedAttributes entity.attributes))).run
        (aligned (openValidationPlan entity moduleName settings) entity.finalId) =
          some (_, _) :=
      (run_append_aligned two).mpr ⟨fits, rfl, rfl⟩
    exact Option.bind_eq_some_iff.mpr
      ⟨_, run_bind_eq_some.mpr ⟨_, _, chain, run_bind_eq_some.mpr ⟨_, _, ended, rfl⟩⟩, rfl⟩

/-- An order. Its number has no check. -/
def Entity.order : Entity :=
  ⟨"Order", [⟨"Number", .autoNumber⟩, ⟨"Total", .decimal⟩, ⟨"Paid", .boolean⟩]⟩

/-- The number of an order has no check. It is reported, and the other attributes are checked. -/
theorem validationMicroflow?_order : validationMicroflow? .order "Shop" .standard =
    some (validationPlan .order "Shop" .standard, [⟨"Number", "AutoNumber"⟩]) :=
  validationMicroflow?_eq_some.mpr ⟨by decide, rfl, rfl⟩

end FlowModel
